import TableGuard.Command.Line
import TableGuard.Proofs.Visit

/-!
# The verbose flag on a command line

A command line is read one argument after another. The flag settles what is pending and is never
taken for a value. So it can be taken out of a line that is accepted, and it can be put in right
after the command; apart from the flag itself the options stay the same.

* `Arg.effect`, `readOptions_option` : what one option does;
* `readOptions_settle` : what is pending may be settled early;
* `Effect.Calm`, `readOptions_loud` : reading on after the flag;
* `readOptions_insert` : a line with the flag, and the line without it;
* `parse_eq_run_iff` : the command lines that ask for a run;
* `parse_of_flag`, `parse_flag_cons` : taking the flag out, and putting it in.
-/

namespace TableGuard

/-! ## One argument -/

/-- The option that a name stands for, among those that take a value. -/
def ValueOption.ofName? (name : String) : Option ValueOption :=
  if name = "path" then some .path else if name = "source-root" then some .sourceRoot else none

/-- What an option does to the options before it, once these are settled: it leaves options and
something pending, or nothing if it asks for help. -/
abbrev Effect := Options → Except UsageError (Option (Options × Pending))

def longEffect (name : String) (value : Option RawText) : Except UsageError Effect :=
  match ValueOption.ofName? name, value with
  | some option, none => .ok fun options => .ok (some (options, some (option, none)))
  | some option, some value => .ok fun options =>
    (settle options (some (option, some value))).map fun options => some (options, none)
  | none, none =>
    if name = "verbose" then .ok fun options => options.setVerbose.map fun o => some (o, none)
    else if name = "help" then .ok fun _ => .ok none
    else .error .unknownArgument
  | none, some _ =>
    .error (if name = "verbose" ∨ name = "help" then .tooManyValues else .unknownArgument)

def shortEffect (letters : List Char) : Except UsageError Effect :=
  if letters.head? = some 'v' ∨ letters.head? = some 'h' then
    .ok fun options => (readFlags options letters).map (Option.map (·, none))
  else .error .unknownArgument

def Arg.effect : Arg → Except UsageError Effect
  | .long name value => longEffect name value
  | .short letters => shortEffect letters
  | _ => .error .unknownArgument

def Arg.isOption : Arg → Bool
  | .long _ _ => true
  | .short _ => true
  | _ => false

theorem Arg.kinds (arg : Arg) : arg.isOption = true ∨ arg = .escape ∨ ∃ text, arg = .word text := by
  cases arg <;> simp [isOption]

/-- The names of options after two hyphens. -/
inductive LongName : String → Prop where
  | path : LongName "path"
  | sourceRoot : LongName "source-root"
  | verbose : LongName "verbose"
  | help : LongName "help"
  | unknown {name : String} (hpath : name ≠ "path") (hsource : name ≠ "source-root")
      (hverbose : name ≠ "verbose") (hhelp : name ≠ "help") : LongName name

theorem LongName.of (name : String) : LongName name := by
  by_cases hpath : name = "path"
  · exact hpath ▸ .path
  · by_cases hsource : name = "source-root"
    · exact hsource ▸ .sourceRoot
    · by_cases hverbose : name = "verbose"
      · exact hverbose ▸ .verbose
      · by_cases hhelp : name = "help"
        · exact hhelp ▸ .help
        · exact .unknown hpath hsource hverbose hhelp

theorem longEffect_unknown {name : String} (hpath : name ≠ "path") (hsource : name ≠ "source-root")
    (hverbose : name ≠ "verbose") (hhelp : name ≠ "help") (value : Option RawText) :
    longEffect name value = .error .unknownArgument := by
  have hvalue : ValueOption.ofName? name = none := by
    rw [ValueOption.ofName?, if_neg hpath, if_neg hsource]
  unfold longEffect
  rw [hvalue]
  cases value with
  | none => exact (if_neg hverbose).trans (if_neg hhelp)
  | some value => exact congrArg Except.error (if_neg (not_or.2 ⟨hverbose, hhelp⟩))

theorem readOptions_long (options : Options) (pending : Pending) {arg : RawText} {name : String}
    {value : Option RawText} (h : Arg.ofRaw arg = .long name value) (args : List RawText) :
    readOptions options pending (arg :: args) = (do
      let effect ← longEffect name value
      let options ← settle options pending
      match ← effect options with
      | some (options, pending) => readOptions options pending args
      | none => return none) := by
  rw [readOptions.eq_def]
  dsimp only
  rw [h]
  cases LongName.of name with
  | path =>
    cases value with
    | none => cases settle options pending <;> rfl
    | some value =>
      refine bind_congr fun options => ?_
      dsimp only
      rw [map_bind_eq]
  | sourceRoot =>
    cases value with
    | none => cases settle options pending <;> rfl
    | some value =>
      refine bind_congr fun options => ?_
      dsimp only
      rw [map_bind_eq]
  | verbose =>
    cases value with
    | none =>
      refine bind_congr fun options => ?_
      dsimp only
      rw [map_bind_eq]
    | some value => rfl
  | help => cases value <;> rfl
  | unknown hpath hsource hverbose hhelp =>
    rw [longEffect_unknown hpath hsource hverbose hhelp]
    cases value <;> simp [hpath, hsource, hverbose, hhelp] <;> rfl

theorem readOptions_short (options : Options) (pending : Pending) {arg : RawText}
    {letters : List Char} (h : Arg.ofRaw arg = .short letters) (args : List RawText) :
    readOptions options pending (arg :: args) = (do
      let effect ← shortEffect letters
      let options ← settle options pending
      match ← effect options with
      | some (options, pending) => readOptions options pending args
      | none => return none) := by
  rw [readOptions.eq_def]
  dsimp only
  rw [h]
  change (readShort options pending letters >>= _) = (shortEffect letters >>= _)
  unfold readShort shortEffect
  split
  · rw [if_pos (.inl rfl)]
    cases settle options pending with
    | error e => rfl
    | ok options =>
      refine Eq.trans ?_ (map_bind_eq _ _ _).symm
      exact bind_congr fun flags => by cases flags <;> rfl
  · rw [if_pos (.inr rfl)]
    cases settle options pending <;> rfl
  · rename_i hv hh
    have hunknown : ¬ (letters.head? = some 'v' ∨ letters.head? = some 'h') := by
      cases letters with
      | nil => simp
      | cons c letters => simp_all
    rw [if_neg hunknown]
    rfl

/-- **One option**: it is known, what is pending is settled, and then it has its effect. -/
theorem readOptions_option (options : Options) (pending : Pending) {arg : RawText}
    (h : (Arg.ofRaw arg).isOption = true) (args : List RawText) :
    readOptions options pending (arg :: args) = (do
      let effect ← (Arg.ofRaw arg).effect
      let options ← settle options pending
      match ← effect options with
      | some (options, pending) => readOptions options pending args
      | none => return none) := by
  cases hform : Arg.ofRaw arg with
  | escape =>
    rw [hform] at h
    cases h
  | word text =>
    rw [hform] at h
    cases h
  | long name value => exact readOptions_long options pending hform args
  | short letters => exact readOptions_short options pending hform args

theorem readOptions_escape (options : Options) (pending : Pending) {arg : RawText}
    (h : Arg.ofRaw arg = .escape) (args : List RawText) :
    readOptions options pending (arg :: args) =
      if args = [] then (settle options pending).map some else .error .unknownArgument := by
  rw [readOptions.eq_def]
  dsimp only
  rw [h]
  cases args <;> rfl

theorem readOptions_word (options : Options) (pending : Pending) {arg text : RawText}
    (h : Arg.ofRaw arg = .word text) (args : List RawText) :
    readOptions options pending (arg :: args) =
      match pending with
      | some (option, none) => readOptions options (some (option, some text)) args
      | _ => .error .unknownArgument := by
  rcases pending with _ | ⟨option, _ | value⟩ <;> simp only [readOptions.eq_def _ _ (_ :: _), h]

/-! ## Settling early -/

/-- What is pending and can be settled may be settled at once: no value is missing. -/
theorem readOptions_settle {options settled : Options} {pending : Pending}
    (h : settle options pending = .ok settled) (args : List RawText) :
    readOptions options pending args = readOptions settled none args := by
  have hsettled : settle settled none = .ok settled := rfl
  cases args with
  | nil => rw [readOptions, readOptions, h, hsettled]
  | cons arg args =>
    rcases (Arg.ofRaw arg).kinds with hoption | hform | ⟨text, hform⟩
    · rw [readOptions_option _ _ hoption, readOptions_option _ _ hoption, h, hsettled]
    · rw [readOptions_escape _ _ hform, readOptions_escape _ _ hform, h, hsettled]
    · rw [readOptions_word _ _ hform, readOptions_word _ _ hform]
      rcases pending with _ | ⟨option, _ | value⟩
      · rfl
      · cases h
      · rfl

/-! ## The flag -/

namespace Options

def loud (options : Options) : Options := { options with verbose := true }

def quiet (options : Options) : Options := { options with verbose := false }

theorem quiet_loud {options : Options} (h : options.verbose = false) :
    options.loud.quiet = options := by
  cases options
  cases h
  rfl

theorem loud_quiet {options : Options} (h : options.verbose = true) :
    options.quiet.loud = options := by
  cases options
  cases h
  rfl

theorem setVerbose_eq_ok_iff {options options' : Options} :
    options.setVerbose = .ok options' ↔ options.verbose = false ∧ options' = options.loud := by
  unfold setVerbose
  cases h : options.verbose with
  | true => simp
  | false => simp [loud, eq_comm]

end Options

/-- The texts that stand for the verbose flag. -/
def IsVerboseFlag (arg : RawText) : Prop := arg = "--verbose" ∨ arg = "-v"

theorem effect_flag {flag : RawText} (h : IsVerboseFlag flag) :
    (Arg.ofRaw flag).isOption = true ∧ (Arg.ofRaw flag).effect =
      .ok fun options => options.setVerbose.map fun options => some (options, none) := by
  rcases h with rfl | rfl
  · have hform : Arg.ofRaw "--verbose" = .long "verbose" none := by decide +kernel
    rw [hform]
    exact ⟨rfl, rfl⟩
  · have hform : Arg.ofRaw "-v" = .short ['v'] := by decide
    rw [hform]
    refine ⟨rfl, congrArg Except.ok (funext fun options => ?_)⟩
    change ((options.setVerbose >>= fun options => .ok (some options)).map _) = _
    cases options.setVerbose <;> rfl

theorem readOptions_flag {flag : RawText} (h : IsVerboseFlag flag) (options : Options)
    (pending : Pending) (args : List RawText) :
    readOptions options pending (flag :: args) = (do
      let options ← settle options pending
      let options ← options.setVerbose
      readOptions options none args) := by
  obtain ⟨hoption, heffect⟩ := effect_flag h
  rw [readOptions_option _ _ hoption, heffect]
  cases settle options pending with
  | error e => rfl
  | ok options => exact map_bind_eq options.setVerbose _ _

/-! ## Reading on after the flag -/

theorem settle_loud (options : Options) (pending : Pending) :
    settle options.loud pending = (settle options pending).map Options.loud := by
  rcases pending with _ | ⟨option, _ | value⟩
  · rfl
  · rfl
  · have hget : options.loud.get? option = options.get? option := by cases option <;> rfl
    have hset : options.loud.set option value = (options.set option value).loud := by
      cases option <;> rfl
    simp only [settle, hget, hset]
    split
    · rfl
    · split <;> rfl

theorem verbose_of_settle {options settled : Options} {pending : Pending}
    (h : settle options pending = .ok settled) : settled.verbose = options.verbose := by
  rcases pending with _ | ⟨option, _ | value⟩
  · rw [Except.ok.inj h]
  · cases h
  · simp only [settle] at h
    split at h
    · cases h
    · split at h
      · cases h
      · rw [← Except.ok.inj h]
        cases option <;> rfl

theorem verbose_of_readFlags {letters : List Char} {options options' : Options}
    (h : readFlags options letters = .ok (some options')) (hverbose : options.verbose = true) :
    options'.verbose = true := by
  unfold readFlags at h
  split at h
  · rw [← Option.some.inj (Except.ok.inj h), hverbose]
  · obtain ⟨loud, hloud, -⟩ := bind_eq_ok_iff.1 h
    rw [Options.setVerbose_eq_ok_iff, hverbose] at hloud
    cases hloud.1
  · cases h
  · cases h

/-- Whether an argument is the verbose flag, or begins with it. -/
def Arg.isVerbose : Arg → Bool
  | .long name value => name == "verbose" && value.isNone
  | .short letters => letters.head? == some 'v'
  | _ => false

def hasFlag (args : List RawText) : Bool := args.any fun arg => (Arg.ofRaw arg).isVerbose

theorem hasFlag_nil : hasFlag [] = false := rfl

theorem hasFlag_cons (arg : RawText) (args : List RawText) :
    hasFlag (arg :: args) = ((Arg.ofRaw arg).isVerbose || hasFlag args) := rfl

/-- An effect that has nothing to do with the flag. -/
structure Effect.Calm (effect : Effect) : Prop where
  loud : ∀ options : Options, effect options.loud =
    (effect options).map (Option.map fun left => (left.1.loud, left.2))
  keeps : ∀ {options left : Options} {pending : Pending},
    effect options = .ok (some (left, pending)) → left.verbose = options.verbose

theorem calm_longEffect {name : String} {value : Option RawText} {effect : Effect}
    (heffect : longEffect name value = .ok effect)
    (h : (Arg.long name value).isVerbose = false) : effect.Calm := by
  unfold longEffect at heffect
  split at heffect
  · obtain rfl := Except.ok.inj heffect
    refine ⟨fun options => rfl, ?_⟩
    rintro options left pending ⟨⟩
    rfl
  · rename_i option value _
    obtain rfl := Except.ok.inj heffect
    refine ⟨fun options => ?_, ?_⟩
    · rw [settle_loud]
      cases settle options (some (option, some value)) <;> rfl
    · intro options left pending hleft
      obtain ⟨settled, hsettle, ⟨⟩⟩ := map_eq_ok_iff.1 hleft
      exact verbose_of_settle hsettle
  · split at heffect
    · rename_i hname
      subst hname
      cases h
    · split at heffect
      · obtain rfl := Except.ok.inj heffect
        exact ⟨fun _ => rfl, nofun⟩
      · cases heffect
  · cases heffect

theorem calm_shortEffect {letters : List Char} {effect : Effect}
    (heffect : shortEffect letters = .ok effect)
    (h : (Arg.short letters).isVerbose = false) : effect.Calm := by
  unfold shortEffect at heffect
  split at heffect
  · rename_i hknown
    obtain rfl := Except.ok.inj heffect
    rcases letters with _ | ⟨letter, letters⟩
    · simp at hknown
    · rcases hknown with hv | hh
      · rw [Arg.isVerbose, hv] at h
        cases h
      · obtain rfl : letter = 'h' := Option.some.inj hh
        exact ⟨fun _ => rfl, nofun⟩
  · cases heffect

theorem calm_effect {arg : Arg} {effect : Effect} (heffect : arg.effect = .ok effect)
    (h : arg.isVerbose = false) : effect.Calm := by
  cases arg with
  | escape => cases heffect
  | word text => cases heffect
  | long name value => exact calm_longEffect heffect h
  | short letters => exact calm_shortEffect heffect h

theorem effect_verbose {arg : Arg} {effect : Effect} (heffect : arg.effect = .ok effect)
    (h : arg.isVerbose = true) :
    (∀ options : Options, effect options.loud = .error .conflict) ∧
      ∀ {options left : Options} {pending : Pending}, effect options = .ok (some (left, pending)) →
        left.verbose = true := by
  cases arg with
  | escape => cases heffect
  | word text => cases heffect
  | long name value =>
    rw [Arg.isVerbose, Bool.and_eq_true, beq_iff_eq, Option.isNone_iff_eq_none] at h
    obtain ⟨rfl, rfl⟩ := h
    obtain rfl := Except.ok.inj heffect
    refine ⟨fun _ => rfl, ?_⟩
    intro options left pending hleft
    obtain ⟨loud, hset, ⟨⟩⟩ := map_eq_ok_iff.1 hleft
    rw [(Options.setVerbose_eq_ok_iff.1 hset).2]
    rfl
  | short letters =>
    rcases letters with _ | ⟨letter, letters⟩
    · cases h
    · obtain rfl : letter = 'v' := by simpa [Arg.isVerbose] using h
      obtain rfl := Except.ok.inj heffect
      refine ⟨fun _ => rfl, ?_⟩
      intro options left pending hleft
      obtain ⟨flags, hflags, hsome⟩ := map_eq_ok_iff.1 hleft
      obtain ⟨flagged, rfl, ⟨⟩⟩ := Option.map_eq_some_iff.1 hsome
      obtain ⟨loud, hloud, hrest⟩ := bind_eq_ok_iff.1 hflags
      rw [(Options.setVerbose_eq_ok_iff.1 hloud).2] at hrest
      exact verbose_of_readFlags hrest rfl

/-- Without the flag a line is read in the same way, whether or not the flag came before it. -/
theorem readOptions_loud : ∀ (args : List RawText) (options : Options) (pending : Pending),
    hasFlag args = false →
      readOptions options.loud pending args =
        (readOptions options pending args).map (Option.map Options.loud)
  | [], options, pending, _ => by
    rw [readOptions, readOptions, settle_loud]
    cases settle options pending <;> rfl
  | arg :: args, options, pending, h => by
    rw [hasFlag_cons, Bool.or_eq_false_iff] at h
    obtain ⟨hfirst, hrest⟩ := h
    rcases (Arg.ofRaw arg).kinds with hoption | hform | ⟨text, hform⟩
    · rw [readOptions_option _ _ hoption, readOptions_option _ _ hoption, settle_loud]
      cases heffect : (Arg.ofRaw arg).effect with
      | error e => rfl
      | ok effect =>
        cases settle options pending with
        | error e => rfl
        | ok settled =>
          have hcalm := calm_effect heffect hfirst
          change (effect settled.loud >>= _) = (effect settled >>= _).map _
          rw [hcalm.loud]
          cases effect settled with
          | error e => rfl
          | ok left =>
            cases left with
            | none => rfl
            | some left => exact readOptions_loud args left.1 left.2 hrest
    · rw [readOptions_escape _ _ hform, readOptions_escape _ _ hform, settle_loud]
      split
      · cases settle options pending <;> rfl
      · rfl
    · rw [readOptions_word _ _ hform, readOptions_word _ _ hform]
      split
      · exact readOptions_loud args options _ hrest
      · rfl

/-- A line that is accepted holds the flag at most once, and then the options do. -/
theorem verbose_of_readOptions : ∀ (args : List RawText) (options : Options) (pending : Pending)
    {options' : Options}, readOptions options pending args = .ok (some options') →
      options'.verbose = (options.verbose || hasFlag args) ∧
        (options.verbose = true → hasFlag args = false)
  | [], options, pending, options', h => by
    obtain ⟨settled, hsettle, ⟨⟩⟩ := map_eq_ok_iff.1 h
    rw [verbose_of_settle hsettle, hasFlag_nil, Bool.or_false]
    exact ⟨rfl, fun _ => rfl⟩
  | arg :: args, options, pending, options', h => by
    rw [hasFlag_cons]
    rcases (Arg.ofRaw arg).kinds with hoption | hform | ⟨text, hform⟩
    · rw [readOptions_option _ _ hoption] at h
      obtain ⟨effect, heffect, h⟩ := bind_eq_ok_iff.1 h
      obtain ⟨settled, hsettle, h⟩ := bind_eq_ok_iff.1 h
      obtain ⟨_ | ⟨mid, rest⟩, hleft, h⟩ := bind_eq_ok_iff.1 h
      · cases h
      obtain ⟨hverbose, hno⟩ := verbose_of_readOptions args mid rest h
      rw [← verbose_of_settle hsettle]
      cases hflag : (Arg.ofRaw arg).isVerbose with
      | false =>
        rw [(calm_effect heffect hflag).keeps hleft] at hverbose hno
        rw [Bool.false_or]
        exact ⟨hverbose, hno⟩
      | true =>
        obtain ⟨hconflict, hstays⟩ := effect_verbose heffect hflag
        rw [hstays hleft] at hverbose
        rw [hverbose, Bool.true_or, Bool.or_true]
        refine ⟨rfl, fun htrue => ?_⟩
        rw [← settled.loud_quiet htrue, hconflict] at hleft
        cases hleft
    · rw [readOptions_escape _ _ hform] at h
      split at h
      · rename_i hnil
        obtain ⟨settled, hsettle, ⟨⟩⟩ := map_eq_ok_iff.1 h
        rw [hnil, hform, verbose_of_settle hsettle]
        simp [Arg.isVerbose, hasFlag]
      · cases h
    · rw [readOptions_word _ _ hform] at h
      rw [hform]
      split at h
      · exact verbose_of_readOptions args options _ h
      · cases h

theorem readOptions_of_loud {args : List RawText} {options : Options} {pending : Pending}
    (hquiet : options.verbose = false) {options' : Options}
    (h : readOptions options.loud pending args = .ok (some options')) :
    options'.verbose = true ∧ readOptions options pending args = .ok (some options'.quiet) := by
  have hno := (verbose_of_readOptions args options.loud pending h).2 rfl
  rw [readOptions_loud args options pending hno] at h
  obtain ⟨read, hread, hsome⟩ := map_eq_ok_iff.1 h
  obtain ⟨quiet, rfl, rfl⟩ := Option.map_eq_some_iff.1 hsome
  have hverbose := (verbose_of_readOptions args options pending hread).1
  rw [hquiet, hno] at hverbose
  rw [Options.quiet_loud hverbose]
  exact ⟨rfl, hread⟩

/-- **The flag can be taken out of a line.** The options are those of the line without it, and the
flag. -/
theorem readOptions_insert {flag : RawText} (hflag : IsVerboseFlag flag) (after : List RawText) :
    ∀ (before : List RawText) (options : Options) (pending : Pending) {options' : Options},
      readOptions options pending (before ++ flag :: after) = .ok (some options') →
      options'.verbose = true ∧
        readOptions options pending (before ++ after) = .ok (some options'.quiet)
  | [], options, pending, options', h => by
    rw [List.nil_append, readOptions_flag hflag] at h
    obtain ⟨settled, hsettle, h⟩ := bind_eq_ok_iff.1 h
    obtain ⟨loud, hloud, h⟩ := bind_eq_ok_iff.1 h
    obtain ⟨hquiet, rfl⟩ := Options.setVerbose_eq_ok_iff.1 hloud
    rw [List.nil_append, readOptions_settle hsettle]
    exact readOptions_of_loud hquiet h
  | arg :: before, options, pending, options', h => by
    rw [List.cons_append] at h ⊢
    rcases (Arg.ofRaw arg).kinds with hoption | hform | ⟨text, hform⟩
    · rw [readOptions_option _ _ hoption] at h ⊢
      obtain ⟨effect, heffect, h⟩ := bind_eq_ok_iff.1 h
      obtain ⟨settled, hsettle, h⟩ := bind_eq_ok_iff.1 h
      obtain ⟨_ | ⟨mid, rest⟩, hleft, h⟩ := bind_eq_ok_iff.1 h
      · cases h
      · obtain ⟨hverbose, hread⟩ := readOptions_insert hflag after before mid rest h
        refine ⟨hverbose, ?_⟩
        exact bind_eq_ok_iff.2 ⟨effect, heffect, bind_eq_ok_iff.2 ⟨settled, hsettle,
          bind_eq_ok_iff.2 ⟨_, hleft, hread⟩⟩⟩
    · rw [readOptions_escape _ _ hform, if_neg (by simp)] at h
      cases h
    · rw [readOptions_word _ _ hform] at h ⊢
      split at h
      · exact readOptions_insert hflag after before options _ h
      · cases h

/-! ## Command lines -/

def Mode.command : Mode → RawText
  | .check => "check"
  | .fix => "fix"

def Mode.topic : Mode → Topic
  | .check => .check
  | .fix => .fix

theorem ofWord?_command (mode : Mode) : Topic.ofWord? mode.command = some mode.topic := by
  cases mode <;> decide

theorem Mode.command_inj {mode mode' : Mode} (h : mode.command = mode'.command) :
    mode = mode' := by
  have htopic := ofWord?_command mode
  rw [h, ofWord?_command mode'] at htopic
  cases mode <;> cases mode' <;> first | rfl | cases htopic

theorem eq_command_of_ofWord? {word : RawText} {mode : Mode}
    (h : Topic.ofWord? word = some mode.topic) : word = mode.command := by
  unfold Topic.ofWord? at h
  split_ifs at h <;> cases mode <;> first | assumption | cases h

theorem ofRun_eq_run_iff {mode mode' : Mode} {topic : Topic} {args : List RawText}
    {options : Options} :
    Request.ofRun mode topic args = .ok (.run mode' options) ↔
      mode' = mode ∧ readOptions .start none args = .ok (some options) := by
  unfold Request.ofRun
  rw [bind_eq_ok_iff]
  constructor
  · rintro ⟨_ | read, hread, heq⟩
    · cases heq
    · cases heq
      exact ⟨rfl, hread⟩
  · rintro ⟨rfl, hread⟩
    exact ⟨_, hread, rfl⟩

theorem ofInit_ne_run {args : List RawText} {mode : Mode} {options : Options} :
    Request.ofInit args ≠ .ok (.run mode options) := by
  intro h
  unfold Request.ofInit at h
  split at h
  · cases h
  · split at h
    · split at h <;> cases h
    all_goals cases h

theorem ofHelp_ne_run {args : List RawText} {mode : Mode} {options : Options} :
    Request.ofHelp args ≠ .ok (.run mode options) := by
  intro h
  unfold Request.ofHelp at h
  split at h
  · cases h
  · split at h <;> cases h
  · cases h

theorem ofArg_ne_run {arg : Arg} {args : List RawText} {mode : Mode} {options : Options} :
    Request.ofArg arg args ≠ .ok (.run mode options) := by
  intro h
  unfold Request.ofArg at h
  split at h
  · split at h
    · cases h
    · split at h <;> cases h
  all_goals cases h

theorem parse_command (mode : Mode) (args : List RawText) :
    Request.parse (mode.command :: args) = Request.ofRun mode mode.topic args := by
  rw [Request.parse, ofWord?_command]
  cases mode <;> rfl

/-- **The command lines that ask for a run.** -/
theorem parse_eq_run_iff {args : List RawText} {mode : Mode} {options : Options} :
    Request.parse args = .ok (.run mode options) ↔
      ∃ rest, args = mode.command :: rest ∧
        readOptions .start none rest = .ok (some options) := by
  constructor
  · intro h
    unfold Request.parse at h
    split at h
    · cases h
    · split at h
      · rename_i hword
        obtain ⟨rfl, hread⟩ := ofRun_eq_run_iff.1 h
        exact ⟨_, congrArg (· :: _) (eq_command_of_ofWord? hword), hread⟩
      · rename_i hword
        obtain ⟨rfl, hread⟩ := ofRun_eq_run_iff.1 h
        exact ⟨_, congrArg (· :: _) (eq_command_of_ofWord? hword), hread⟩
      · exact absurd h ofInit_ne_run
      · exact absurd h ofHelp_ne_run
      · exact absurd h ofArg_ne_run
  · rintro ⟨rest, rfl, h⟩
    rw [parse_command]
    exact ofRun_eq_run_iff.2 ⟨rfl, h⟩

theorem command_not_flag {flag : RawText} (hflag : IsVerboseFlag flag) (mode : Mode) :
    mode.command ≠ flag := by
  rcases hflag with rfl | rfl <;> cases mode <;> decide

theorem parse_of_flag {flag : RawText} (hflag : IsVerboseFlag flag) {before after : List RawText}
    {mode : Mode} {options : Options}
    (h : Request.parse (before ++ flag :: after) = .ok (.run mode options)) :
    options.verbose = true ∧ Request.parse (before ++ after) = .ok (.run mode options.quiet) := by
  obtain ⟨rest, hargs, hread⟩ := parse_eq_run_iff.1 h
  cases before with
  | nil => exact absurd (List.cons.inj hargs).1.symm (command_not_flag hflag mode)
  | cons command before =>
    obtain ⟨rfl, rfl⟩ := List.cons.inj hargs
    obtain ⟨hverbose, hread'⟩ := readOptions_insert hflag after before _ _ hread
    exact ⟨hverbose, parse_eq_run_iff.2 ⟨_, rfl, hread'⟩⟩

def Request.loud : Request → Request
  | .run mode options => .run mode options.loud
  | request => request

/-- After the command the flag changes nothing else about a line, be it accepted or not. -/
theorem parse_flag_cons {flag : RawText} (hflag : IsVerboseFlag flag) (mode : Mode)
    {args : List RawText} (h : hasFlag args = false) :
    Request.parse (mode.command :: flag :: args) =
      (Request.parse (mode.command :: args)).map Request.loud := by
  have hread : readOptions .start none (flag :: args) =
      (readOptions .start none args).map (Option.map Options.loud) := by
    rw [readOptions_flag hflag]
    exact readOptions_loud args .start none h
  rw [parse_command, parse_command]
  unfold Request.ofRun
  rw [hread]
  cases readOptions .start none args with
  | error e => rfl
  | ok read => cases read <;> rfl

end TableGuard

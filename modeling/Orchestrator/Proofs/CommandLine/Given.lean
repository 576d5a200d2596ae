import Orchestrator.Proofs.CommandLine.Flags

/-!
# What a command line gives

Options that are given once each, and as their kind wants, are all taken, and each then has its own value
(`Options.giveAll_shows`). A variable of the environment counts as given if the command line does not
give its option, so an invocation holds of each option the text on the command line, or else that in the
environment, or else nothing: `Line.invocation_shows`.
-/
namespace Orchestrator.CommandLine

/-! ## Texts of values -/

def word16? (text : String) : Option UInt16 :=
  (numberBelow signed? UInt16.size text).toOption.map UInt16.ofNat

def word32? (text : String) : Option UInt32 :=
  (numberBelow signed? UInt32.size text).toOption.map UInt32.ofNat

def word64? (text : String) : Option UInt64 :=
  (numberBelow unsigned? UInt64.size text).toOption.map UInt64.ofNat

/-- Is the text a value of the option? -/
def Setting.Reads : Setting → String → Prop
  | .config, text | .dataDir, text => text ≠ ""
  | .port, text => (word16? text).isSome
  | .deploymentRetries, text => (word32? text).isSome
  | .workers, text | .queueCapacity, text | .retryDelay, text | .pollInterval, text =>
    (word64? text).isSome
  | .watch, text | .logJson, text => text = "true" ∨ text = "false"
  | .network, _ => True

instance : (s : Setting) → (text : String) → Decidable (s.Reads text)
  | .config, text | .dataDir, text => inferInstanceAs (Decidable (text ≠ ""))
  | .port, text => inferInstanceAs (Decidable ((word16? text).isSome = true))
  | .deploymentRetries, text => inferInstanceAs (Decidable ((word32? text).isSome = true))
  | .workers, text | .queueCapacity, text | .retryDelay, text | .pollInterval, text =>
    inferInstanceAs (Decidable ((word64? text).isSome = true))
  | .watch, text | .logJson, text => inferInstanceAs (Decidable (text = "true" ∨ text = "false"))
  | .network, _ => inferInstanceAs (Decidable True)

/-- Is the option what a text makes it, or what it is when it is not given? -/
def Options.Shows (o : Options) : Setting → Option String → Prop
  | .config, text => o.config = text
  | .port, text => o.port = text.bind word16?
  | .dataDir, text => o.dataDir = text
  | .workers, text => o.workers = text.bind word64?
  | .queueCapacity, text => o.queueCapacity = text.bind word64?
  | .deploymentRetries, text => o.deploymentRetries = text.bind word32?
  | .retryDelay, text => o.retryDelay = text.bind word64?
  | .watch, text => o.watch = decide (text = some "true")
  | .pollInterval, text => o.pollInterval = text.bind word64?
  | .network, text => o.network = text
  | .logJson, text => o.logJson = decide (text = some "true")

theorem Options.shows_none (s : Setting) : ({} : Options).Shows s none := by
  cases s <;> rfl

theorem exists_of_isSome_toOption {ε α β : Type} {x : Except ε α} {f : α → β}
    (h : (x.toOption.map f).isSome) : ∃ a, x = .ok a := by
  cases x with
  | error e => cases h
  | ok a => exact ⟨a, rfl⟩

theorem pathValue_of_ne {text : String} (h : text ≠ "") : pathValue text = .ok text := if_neg h

theorem switchValue_of_reads {text : String} (h : text = "true" ∨ text = "false") :
    switchValue text = .ok (decide (text = "true")) := by
  rcases h with rfl | rfl <;> rfl

/-- An option that is given a value of its kind shows it. -/
theorem Options.give_shows {s : Setting} {text : String} (h : s.Reads text) (o : Options) :
    ∃ next, o.give s text = .ok next ∧ next.Shows s (some text) := by
  cases s with
  | config => exact ⟨{ o with config := some text }, by rw [give, pathValue_of_ne h]; rfl, rfl⟩
  | dataDir => exact ⟨{ o with dataDir := some text }, by rw [give, pathValue_of_ne h]; rfl, rfl⟩
  | network => exact ⟨{ o with network := some text }, rfl, rfl⟩
  | watch | logJson =>
    refine ⟨_, by rw [give, switchValue_of_reads h]; rfl, ?_⟩
    simp [Shows]
  | port | workers | queueCapacity | deploymentRetries | retryDelay | pollInterval =>
    obtain ⟨n, hn⟩ := exists_of_isSome_toOption h
    refine ⟨_, by rw [give, hn]; rfl, ?_⟩
    rw [Shows, Option.bind_some]
    first | rw [word16?, hn] | rw [word32?, hn] | rw [word64?, hn]
    rfl

theorem exists_of_bind_ok {ε α β : Type} {x : Except ε α} {f : α → Except ε β} {b : β}
    (h : x >>= f = .ok b) : ∃ a, x = .ok a ∧ f a = .ok b := by
  cases x with
  | error e => cases h
  | ok a => exact ⟨a, rfl, h⟩

/-- Giving an option leaves the others as they are. -/
theorem Options.shows_of_give {s t : Setting} {text : String} {given : Option String}
    {o next : Options} (h : o.give s text = .ok next) (ht : t ≠ s) (hgiven : o.Shows t given) :
    next.Shows t given := by
  cases s
  case network =>
    cases h
    cases t <;> first | exact absurd rfl ht | exact hgiven
  all_goals
    obtain ⟨v, -, hnext⟩ := exists_of_bind_ok h
    cases hnext
    cases t <;> first | exact absurd rfl ht | exact hgiven

/-! ## Many options -/

/-- Gives options their texts, one after the other. -/
def Options.giveAll (o : Options) (given : List (Setting × String)) : Except UsageError Options :=
  given.foldlM (fun o g => o.give g.1 g.2) o

/-- Options given once each show what they are given. -/
theorem Options.giveAll_shows {given : List (Setting × String)} (hnodup : (given.map Prod.fst).Nodup)
    (hreads : ∀ g ∈ given, g.1.Reads g.2) (o : Options) :
    ∃ next, o.giveAll given = .ok next ∧
      ∀ s text, o.Shows s text → next.Shows s (given.lookup s <|> text) := by
  induction given generalizing o with
  | nil => exact ⟨o, rfl, fun s text h => h⟩
  | cons g given ih =>
    obtain ⟨t, value⟩ := g
    obtain ⟨habsent, hnodup⟩ := List.nodup_cons.1 hnodup
    obtain ⟨first, hfirst, hshown⟩ := give_shows (hreads _ List.mem_cons_self) o
    obtain ⟨next, hnext, hshows⟩ := ih hnodup (fun g hg => hreads g (List.mem_cons_of_mem _ hg)) first
    refine ⟨next, ?_, fun s text htext => ?_⟩
    · rw [giveAll, List.foldlM_cons, hfirst]
      exact hnext
    by_cases hs : s = t
    · subst hs
      have hnone : given.lookup s = none := List.lookup_eq_none_iff.2 fun g hg =>
        bne_iff_ne.2 fun h => habsent (List.mem_map.2 ⟨g, hg, h.symm⟩)
      have hnext := hshows s (some value) hshown
      rw [hnone] at hnext
      rw [List.lookup_cons, beq_self_eq_true]
      exact hnext
    · rw [List.lookup_cons, beq_false_of_ne hs]
      exact hshows s text (shows_of_give hfirst hs htext)

theorem Options.giveAll_append (o : Options) (given more : List (Setting × String)) :
    o.giveAll (given ++ more) = o.giveAll given >>= fun o => o.giveAll more :=
  List.foldlM_append

/-! ## Command lines -/

/-- The option and its value. -/
def Flag.given (flag : Flag) : Setting × String := (flag.setting, flag.value)

/-- A command with its options, each given once and as its kind wants. The switch for JSON logs may also
stand before the command. -/
structure Line where
  logJson : Bool
  command : Command
  flags : List Flag
  nodup : (flags.map Flag.setting).Nodup
  reads : ∀ flag ∈ flags, flag.setting.Reads flag.value

namespace Line

/-- The arguments after the program's name. -/
def words (line : Line) : List String :=
  (if line.logJson then ["--" ++ Setting.logJson.name] else []) ++
    line.command.name :: line.flags.flatMap Flag.words

/-- What is given for an option, on the command line or else in the environment. -/
def given (line : Line) (env : String → Option String) (s : Setting) : Option String :=
  (line.flags.map Flag.given).lookup s <|> env s.envVariable

end Line

/-- Options that were not taken before are taken as they are given. -/
theorem takeFlags {flags : List Flag} (scan : Scan) (hnodup : (flags.map Flag.setting).Nodup)
    (hpending : scan.pending = none) (hnew : ∀ flag ∈ flags, flag.setting ∉ scan.given)
    {next : Options} (h : scan.options.giveAll (flags.map Flag.given) = .ok next) :
    flags.foldlM Scan.takeFlag scan =
      .ok ⟨next, (flags.map Flag.setting).reverse ++ scan.given, none⟩ := by
  induction flags generalizing scan with
  | nil =>
    obtain ⟨options, given, pending⟩ := scan
    cases hpending
    cases h
    rfl
  | cons flag flags ih =>
    obtain ⟨habsent, hnodup⟩ := List.nodup_cons.1 hnodup
    obtain ⟨first, hfirst, hnext⟩ := exists_of_bind_ok h
    have htake : scan.takeFlag flag = .ok ⟨first, flag.setting :: scan.given, none⟩ := by
      rw [Scan.takeFlag, Scan.take, if_neg (hnew flag List.mem_cons_self)]
      exact congrArg (· >>= _) hfirst
    have hrest : ∀ f ∈ flags, f.setting ∉ flag.setting :: scan.given := by
      intro f hf
      rw [List.mem_cons, not_or]
      exact ⟨fun h => habsent (h ▸ List.mem_map_of_mem hf), hnew f (List.mem_cons_of_mem _ hf)⟩
    rw [List.foldlM_cons, htake, List.map_cons, List.reverse_cons, List.append_assoc]
    exact ih ⟨first, flag.setting :: scan.given, none⟩ hnodup rfl hrest hnext

/-! ## The environment -/

/-- What the variables of some options hold. -/
def valuesIn (env : String → Option String) (settings : List Setting) : List (Setting × String) :=
  settings.filterMap fun s => (env s.envVariable).map (s, ·)

theorem fst_mem_of_mem_valuesIn {env : String → Option String} {settings : List Setting}
    {g : Setting × String} (h : g ∈ valuesIn env settings) :
    g.1 ∈ settings ∧ env g.1.envVariable = some g.2 := by
  obtain ⟨s, hs, hg⟩ := List.mem_filterMap.1 h
  obtain ⟨text, htext, rfl⟩ := Option.map_eq_some_iff.1 hg
  exact ⟨hs, htext⟩

theorem valuesIn_cons (env : String → Option String) (s : Setting) (settings : List Setting) :
    valuesIn env (s :: settings) =
      ((env s.envVariable).map (s, ·)).toList ++ valuesIn env settings := by
  cases h : env s.envVariable <;> simp [valuesIn, h]

theorem map_fst_valuesIn (env : String → Option String) (settings : List Setting) :
    (valuesIn env settings).map Prod.fst = settings.filter fun s => (env s.envVariable).isSome := by
  induction settings with
  | nil => rfl
  | cons s settings ih =>
    rw [valuesIn_cons, List.map_append, ih]
    cases h : env s.envVariable <;> simp [h]

theorem lookup_valuesIn (env : String → Option String) (settings : List Setting) (s : Setting) :
    (valuesIn env settings).lookup s = if s ∈ settings then env s.envVariable else none := by
  induction settings with
  | nil => rfl
  | cons t settings ih =>
    rw [valuesIn_cons, List.lookup_append, ih]
    by_cases hs : s = t
    · subst hs
      cases env s.envVariable <;> simp
    · have : (((env t.envVariable).map (t, ·)).toList).lookup s = none := by
        cases env t.envVariable <;> simp [hs]
      simp [this, hs]

theorem Scan.fromEnvironment_eq (scan : Scan) (env : String → Option String) :
    scan.fromEnvironment env =
      scan.options.giveAll (valuesIn env (Setting.all.filter (· ∉ scan.given))) := by
  rw [fromEnvironment, Options.giveAll, valuesIn, List.foldlM_filterMap]
  congr 1
  funext o s
  cases env s.envVariable <;> rfl

/-! ## Invocations -/

theorem Setting.mem_all (s : Setting) : s ∈ Setting.all := by cases s <;> decide

theorem lookup_given_eq_none_iff {flags : List Flag} {s : Setting} :
    (flags.map Flag.given).lookup s = none ↔ s ∉ flags.map Flag.setting := by
  rw [List.lookup_eq_none_iff, List.mem_map, List.forall_mem_map, not_exists]
  simp only [bne_iff_ne, not_and]
  exact forall_congr' fun flag => imp_congr_right fun _ => ne_comm

namespace Line

variable (line : Line)

/-- The switch before the command is read before it. -/
theorem scanProgram_words (env : String → Option String) :
    scanProgram env false line.words =
      scanCommand env line.logJson line.command (line.flags.flatMap Flag.words) := by
  obtain ⟨logJson, command, flags, _, _⟩ := line
  have hcommand : ∀ logJson, scanProgram env logJson (command.name :: flags.flatMap Flag.words) =
      scanCommand env logJson command (flags.flatMap Flag.words) := by
    intro logJson
    cases command <;> rfl
  cases logJson with
  | false => exact hcommand false
  | true =>
    show scanProgram env false (("--" ++ Setting.logJson.name) :: _) = _
    rw [scanProgram.eq_def]
    simp only [Argument.of_name, if_neg (Setting.name_ne_help .logJson)]
    exact hcommand true

/-- The options and what their variables hold, the variables of given options aside. -/
def allGiven (env : String → Option String) : List (Setting × String) :=
  line.flags.map Flag.given ++
    valuesIn env (Setting.all.filter (· ∉ (line.flags.map Flag.setting).reverse))

variable {line} {env : String → Option String}

theorem lookup_allGiven (s : Setting) : (line.allGiven env).lookup s = line.given env s := by
  rw [allGiven, List.lookup_append, given]
  cases h : (line.flags.map Flag.given).lookup s with
  | some value => rfl
  | none =>
    have hs : s ∈ Setting.all.filter (· ∉ (line.flags.map Flag.setting).reverse) := by
      simpa [Setting.mem_all] using lookup_given_eq_none_iff.1 h
    rw [lookup_valuesIn, if_pos hs]
    rfl

theorem nodup_allGiven : ((line.allGiven env).map Prod.fst).Nodup := by
  have hfst : (line.flags.map Flag.given).map Prod.fst = line.flags.map Flag.setting := by
    rw [List.map_map]
    rfl
  have hall : Setting.all.Nodup := by decide
  rw [allGiven, List.map_append, hfst, map_fst_valuesIn, List.nodup_append]
  refine ⟨line.nodup, (hall.filter _).filter _, fun s hs t ht h => ?_⟩
  subst h
  have hnew := (List.mem_filter.1 (List.mem_filter.1 ht).1).2
  exact of_decide_eq_true hnew (List.mem_reverse.2 hs)

theorem reads_allGiven (henv : ∀ s : Setting, ∀ text ∈ env s.envVariable, s.Reads text) :
    ∀ g ∈ line.allGiven env, g.1.Reads g.2 := by
  intro g hg
  rcases List.mem_append.1 hg with hg | hg
  · obtain ⟨flag, hflag, rfl⟩ := List.mem_map.1 hg
    exact line.reads flag hflag
  · exact henv g.1 g.2 (fst_mem_of_mem_valuesIn hg).2

theorem logJsonVariable_ok (henv : ∀ s : Setting, ∀ text ∈ env s.envVariable, s.Reads text)
    (givenTwice : Bool) : ∃ logJson, logJsonVariable givenTwice env = .ok logJson := by
  unfold logJsonVariable
  split
  · exact ⟨true, rfl⟩
  · cases h : env Setting.logJson.envVariable with
    | none => exact ⟨false, rfl⟩
    | some text => exact ⟨_, switchValue_of_reads (henv .logJson text h)⟩

/-- A command line whose values are all of their kinds is understood, and its options show what is
given. -/
theorem invocation_shows (line : Line) (henv : ∀ s : Setting, ∀ text ∈ env s.envVariable, s.Reads text)
    (program : String) :
    ∃ i, invocation env (program :: line.words) = .ok i ∧ i.command = line.command ∧
      ∀ s, i.options.Shows s (line.given env s) := by
  have hreads : ∀ g ∈ line.allGiven env, g.1.Reads g.2 := reads_allGiven henv
  obtain ⟨options, hall, hshows⟩ := Options.giveAll_shows nodup_allGiven hreads {}
  rw [allGiven, Options.giveAll_append] at hall
  obtain ⟨taken, htaken, hoptions⟩ := exists_of_bind_ok hall
  have hscan : scanOptions {} (line.flags.flatMap Flag.words) =
      .ok ⟨taken, (line.flags.map Flag.setting).reverse, none⟩ := by
    have := takeFlags {} line.nodup rfl (fun _ _ => List.not_mem_nil) htaken
    rw [List.append_nil] at this
    rw [scanOptions_flags]
    exact this
  obtain ⟨fallback, hfallback⟩ := logJsonVariable_ok henv
    (line.logJson && decide (Setting.logJson ∈ (line.flags.map Flag.setting).reverse))
  refine ⟨⟨line.command, options, line.logJson || options.logJson || fallback⟩, ?_, rfl, fun s => ?_⟩
  · show scanProgram env false line.words = _
    rw [scanProgram_words, scanCommand, hscan]
    show Scan.fromEnvironment _ env >>= _ = _
    rw [Scan.fromEnvironment_eq, hoptions]
    show logJsonVariable _ env >>= _ = _
    rw [hfallback]
    rfl
  · have := hshows s none (Options.shows_none s)
    rw [lookup_allGiven] at this
    cases hgiven : line.given env s <;> rw [hgiven] at this <;> exact this

end Line

end Orchestrator.CommandLine

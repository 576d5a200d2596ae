import Orchestrator.CommandLine.Arguments

/-!
# Options on the command line

Reading the words of options is taking the options one by one, whatever their values and however the
values are attached to the names: `scanOptions_flags`. An option whose value stands in a word of its own
is taken late, at the next option or at the end; nothing comes between that could tell.
-/
namespace Orchestrator.CommandLine

/-- An option as it stands on the command line. -/
inductive Flag where
  /-- A switch, by its name alone. -/
  | switch (s : Setting) (hswitch : s.isSwitch = true)
  /-- A value in one word with the name. -/
  | attached (s : Setting) (hvalued : s.isSwitch = false) (value : String)
  /-- A value in a word of its own, which must not look like an option. -/
  | spaced (s : Setting) (hvalued : s.isSwitch = false) (value : String)
      (hword : Argument.of value = .word value)

namespace Flag

/-- The option that is given. -/
def setting : Flag → Setting
  | .switch s _ | .attached s _ _ | .spaced s _ _ _ => s

/-- The value it is given. -/
def value : Flag → String
  | .switch _ _ => "true"
  | .attached _ _ value | .spaced _ _ value _ => value

/-- The words it stands in. -/
def words : Flag → List String
  | .switch s _ => ["--" ++ s.name]
  | .attached s _ value => ["--" ++ s.name ++ "=" ++ value]
  | .spaced s _ value _ => ["--" ++ s.name, value]

end Flag

/-! ## Names -/

theorem Setting.ofName?_name (s : Setting) : Setting.ofName? s.name = some s := by
  cases s <;> decide

theorem Setting.name_ne_help (s : Setting) : s.name ≠ "help" := by
  cases s <;> decide

/-- A name is not empty and has no equals sign. -/
theorem Setting.name_chars (s : Setting) : s.name.toList ≠ [] ∧ '=' ∉ s.name.toList := by
  cases s <;> decide

theorem takeWhile_name {name : List Char} (hname : '=' ∉ name) (rest : List Char)
    (htake : rest.takeWhile (· ≠ '=') = []) (hdrop : rest.dropWhile (· ≠ '=') = rest) :
    (name ++ rest).takeWhile (· ≠ '=') = name ∧ (name ++ rest).dropWhile (· ≠ '=') = rest := by
  have hname : ∀ c ∈ name, decide (c ≠ '=') = true := fun c hc =>
    decide_eq_true fun h => hname (h ▸ hc)
  rw [List.takeWhile_append_of_pos hname, List.dropWhile_append_of_pos hname, htake, hdrop,
    List.append_nil]
  exact ⟨rfl, rfl⟩

/-- Two dashes and more are an option's name. -/
theorem Argument.of_dashes {rest : List Char} (hrest : rest ≠ []) {text : String}
    (htext : text.toList = '-' :: '-' :: rest) :
    Argument.of text = match rest.dropWhile (· ≠ '=') with
      | [] => .long (String.ofList (rest.takeWhile (· ≠ '='))) none
      | _ :: value => .long (String.ofList (rest.takeWhile (· ≠ '='))) (some (String.ofList value)) := by
  obtain ⟨c, rest, rfl⟩ := List.exists_cons_of_ne_nil hrest
  rw [Argument.of, htext]
  rfl

theorem Argument.of_name (s : Setting) : Argument.of ("--" ++ s.name) = .long s.name none := by
  obtain ⟨hne, hchars⟩ := s.name_chars
  obtain ⟨htake, hdrop⟩ := takeWhile_name hchars [] rfl rfl
  rw [List.append_nil] at htake hdrop
  rw [Argument.of_dashes hne (by simp [String.toList_append]), hdrop, htake, String.ofList_toList]

theorem Argument.of_name_value (s : Setting) (value : String) :
    Argument.of ("--" ++ s.name ++ "=" ++ value) = .long s.name (some value) := by
  obtain ⟨-, hchars⟩ := s.name_chars
  obtain ⟨htake, hdrop⟩ := takeWhile_name hchars ('=' :: value.toList) rfl rfl
  have htext : ("--" ++ s.name ++ "=" ++ value).toList
      = '-' :: '-' :: (s.name.toList ++ '=' :: value.toList) := by
    simp [String.toList_append]
  rw [Argument.of_dashes (by simp) htext, hdrop, htake, String.ofList_toList]
  exact congrArg (fun value => Argument.long s.name (some value)) String.ofList_toList

/-! ## Scanning -/

/-- Takes an option as it is given. -/
def Scan.takeFlag (scan : Scan) (flag : Flag) : Except UsageError Scan :=
  scan.take flag.setting flag.value

/-- What was taken is settled. -/
theorem Scan.resolve_of_take {scan taken : Scan} {s : Setting} {value : String}
    (h : scan.take s value = .ok taken) : taken.resolve = .ok taken := by
  unfold Scan.take at h
  split at h
  · cases h
  · obtain ⟨options, hgive⟩ : ∃ o, scan.options.give s value = .ok o := by
      cases hgive : scan.options.give s value with
      | error e => rw [hgive] at h; cases h
      | ok o => exact ⟨o, rfl⟩
    rw [hgive] at h
    cases h
    rfl

/-- Reading the words of an option settles what came before it and takes the option; `f` is what
becomes of the words after it. -/
theorem scanOptions_words {rest : List String} {f : Scan → Except UsageError Scan}
    (hrest : ∀ scan, scanOptions scan rest = scan.resolve >>= f) (flag : Flag) (scan : Scan) :
    scanOptions scan (flag.words ++ rest) =
      scan.resolve >>= fun settled => settled.takeFlag flag >>= f := by
  -- an option that is taken at once leaves nothing to settle
  have taken : ∀ (scan : Scan) (s : Setting) (value : String),
      (scan.take s value >>= fun scan => scanOptions scan rest) = scan.take s value >>= f := by
    intro scan s value
    cases htake : scan.take s value with
    | error e => rfl
    | ok next =>
      show scanOptions next rest = f next
      rw [hrest, Scan.resolve_of_take htake]
      rfl
  cases flag with
  | switch s hswitch =>
    show scanOptions scan (("--" ++ s.name) :: rest) = _
    rw [scanOptions, Argument.of_name]
    simp only [if_neg s.name_ne_help, s.ofName?_name, hswitch, if_true, taken]
    rfl
  | attached s hvalued value =>
    show scanOptions scan (("--" ++ s.name ++ "=" ++ value) :: rest) = _
    rw [scanOptions, Argument.of_name_value]
    simp only [if_neg s.name_ne_help, s.ofName?_name, hvalued, taken]
    rfl
  | spaced s hvalued value hword =>
    show scanOptions scan (("--" ++ s.name) :: value :: rest) = _
    rw [scanOptions, Argument.of_name]
    simp only [if_neg s.name_ne_help, s.ofName?_name, hvalued]
    refine bind_congr fun settled => ?_
    show scanOptions _ (value :: rest) = _
    rw [scanOptions, hword]
    exact hrest _

/-- Reading the words of options takes them one by one. -/
theorem scanOptions_flags (flags : List Flag) (scan : Scan) :
    scanOptions scan (flags.flatMap Flag.words) = scan.resolve >>= (flags.foldlM Scan.takeFlag ·) := by
  induction flags generalizing scan with
  | nil =>
    show scan.resolve = scan.resolve >>= pure
    rw [bind_pure]
  | cons flag flags ih => exact scanOptions_words ih flag scan

end Orchestrator.CommandLine

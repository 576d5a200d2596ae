import Orchestrator.Proofs.Deployment.Labels
import Orchestrator.Proofs.Fleet.Environment

/-!
# What a container tells of its deployment

Volumes, variables and host names are written into a container's description as texts: a colon between the
two places of a volume, an equals sign behind the name of a variable, quotation marks around a host name.
None of this is escaped. So what a deployment has can be read back from the description as far as no name of
one deployment goes on, with the mark behind it, from where a name of the other ends: `spec_tells`. Where
one does, different deployments may get the same: `specs_coincide`.
-/
namespace Orchestrator

/-! ## Names in front of a mark -/

/-- Marks whose first character does not come again in them. -/
def IsMark (mark : String) : Prop := ∃ c rest, mark.toList = c :: rest ∧ c ∉ rest

/-- Some name on one of the lists goes on with the mark from where one on the other list ends. -/
def Ambiguous (mark : String) (names names' : List String) : Prop :=
  ∃ a ∈ names, ∃ b ∈ names',
    Text.RunsOn mark.toList a.toList b.toList ∨ Text.RunsOn mark.toList b.toList a.toList

instance (mark : String) (names names' : List String) : Decidable (Ambiguous mark names names') :=
  inferInstanceAs (Decidable (∃ a ∈ names, ∃ b ∈ names', _ ∨ _))

theorem Ambiguous.cons {mark : String} {names names' : List String} (h : Ambiguous mark names names')
    (a b : String) : Ambiguous mark (a :: names) (b :: names') := by
  obtain ⟨x, hx, y, hy, hruns⟩ := h
  exact ⟨x, List.mem_cons_of_mem a hx, y, List.mem_cons_of_mem b hy, hruns⟩

/-- Two names with the mark and more behind them read differently, unless one runs on from the other. -/
theorem IsMark.split {mark a b : String} (hmark : IsMark mark) {r r' : List Char} {names names' : List String}
    (h : a.toList ++ (mark.toList ++ r) = b.toList ++ (mark.toList ++ r')) :
    a = b ∧ r = r' ∨ Ambiguous mark (a :: names) (b :: names') := by
  obtain ⟨c, rest, hlist, hc⟩ := hmark
  have hcut := h
  rw [hlist] at hcut
  rcases Text.eq_or_runsOn hc hcut with heq | hruns
  · obtain rfl := String.toList_inj.1 heq
    exact .inl ⟨rfl, List.append_cancel_left (List.append_cancel_left h)⟩
  · refine .inr ⟨a, List.mem_cons_self, b, List.mem_cons_self, ?_⟩
    rw [hlist]
    exact hruns

/-- Pairs written with a mark in between are told apart, unless the first halves are ambiguous. -/
theorem IsMark.joined {mark : String} (hmark : IsMark mark) {l l' : List (String × String)}
    (h : (l.map fun e => e.1 ++ mark ++ e.2) = l'.map fun e => e.1 ++ mark ++ e.2) :
    l = l' ∨ Ambiguous mark (l.map Prod.fst) (l'.map Prod.fst) := by
  induction l generalizing l' with
  | nil =>
    cases l' with
    | nil => exact .inl rfl
    | cons e' l' => cases h
  | cons e l ih =>
    cases l' with
    | nil => cases h
    | cons e' l' =>
      obtain ⟨hfirst, hrest⟩ := List.cons.inj h
      have hchars := congrArg String.toList hfirst
      simp only [String.toList_append, List.append_assoc] at hchars
      rcases hmark.split hchars with ⟨hkey, hvalue⟩ | hambiguous
      · rcases ih hrest with rfl | hambiguous
        · exact .inl (congrArg (· :: l) (Prod.ext hkey (String.toList_inj.1 hvalue)))
        · exact .inr (hambiguous.cons e.1 e'.1)
      · exact .inr hambiguous

theorem IsMark.entries {mark : String} (hmark : IsMark mark) {m m' : SortedMap String String}
    (h : (m.entries.map fun e => e.1 ++ mark ++ e.2) = m'.entries.map fun e => e.1 ++ mark ++ e.2) :
    m = m' ∨ Ambiguous mark m.keys m'.keys :=
  (hmark.joined h).imp_left SortedMap.ext

namespace Deployment

/-! ## Host names -/

/-- What stands behind a host name in a rule, after the end of its quotation. -/
def ruleAfter : List String → List Char
  | [] => []
  | host :: rest => " || ".toList ++ (hostRule (host :: rest)).toList

theorem toList_hostRule_cons (host : String) (rest : List String) : (hostRule (host :: rest)).toList
    = "Host(\x60".toList ++ (host.toList ++ ("\x60)".toList ++ ruleAfter rest)) := by
  cases rest with
  | nil => simp [hostRule, ruleAfter]
  | cons next rest =>
    simp [hostRule, ruleAfter, String.toList_intercalate]

/-- Rules are told apart, unless a host name holds the end of a quotation. -/
theorem eq_of_hostRule {hosts hosts' : List String} (h : hostRule hosts = hostRule hosts') :
    hosts = hosts' ∨ Ambiguous "\x60)" hosts hosts' := by
  induction hosts generalizing hosts' with
  | nil =>
    cases hosts' with
    | nil => exact .inl rfl
    | cons host' rest' =>
      have hchars := congrArg String.toList h
      rw [toList_hostRule_cons] at hchars
      cases hchars
  | cons host rest ih =>
    cases hosts' with
    | nil =>
      have hchars := congrArg String.toList h
      rw [toList_hostRule_cons] at hchars
      cases hchars
    | cons host' rest' =>
      have hchars := congrArg String.toList h
      rw [toList_hostRule_cons, toList_hostRule_cons, List.append_right_inj] at hchars
      have hmark : IsMark "\x60)" := ⟨'\x60', [')'], rfl, by decide⟩
      rcases hmark.split hchars with ⟨rfl, hafter⟩ | hambiguous
      · cases rest with
        | nil =>
          cases rest' with
          | nil => exact .inl rfl
          | cons _ _ => cases hafter
        | cons next rest =>
          cases rest' with
          | nil => cases hafter
          | cons next' rest' =>
            have hrule : hostRule (next :: rest) = hostRule (next' :: rest') :=
              String.toList_inj.1 (List.append_cancel_left hafter)
            rcases ih hrule with heq | hambiguous
            · exact .inl (by rw [heq])
            · exact .inr (hambiguous.cons host host)
      · exact .inr hambiguous

end Deployment

/-! ## Descriptions -/

namespace Fleet

open Engine

/-- Two deployments that have the same but for volumes, variables and host names, and list no secrets. -/
structure Twins (d d' : Deployment) : Prop where
  name : d.name = d'.name
  image : d.image = d'.image
  registry : d.registry = d'.registry
  tag : d.tag = d'.tag
  ports : d.ports = d'.ports
  secure : d.secure = d'.secure
  rateLimit : d.rateLimit = d'.rateLimit
  noSecrets : d.secrets = ∅
  noSecrets' : d'.secrets = ∅

/-- A deployment that lists no secrets is described whatever the store has. -/
theorem run_spec_bare (f : Fleet) {d : Deployment} (h : d.secrets = ∅) (s : Daemon) :
    ((f.spec d).run.run Daemon.serve s).1
      = .ok (f.specFor d (newName s d) (d.env.entries.map fun e => e.1 ++ "=" ++ e.2)) := by
  have henv : environment d.env [] = d.env.entries.map fun e => e.1 ++ "=" ++ e.2 := by
    simp [environment, substituted]
  unfold spec resolveEnv
  rw [h, ← henv]
  rfl

/-- Twins with the same rule have the same host names, unless one holds the end of a quotation. -/
theorem Twins.aliases_eq {d d' : Deployment} (h : Twins d d') {network : String}
    (hrule : (d.containerLabels network).find? (Deployment.routerPrefix d.name ++ ".rule")
      = (d'.containerLabels network).find? (Deployment.routerPrefix d.name ++ ".rule")) :
    d.aliases = d'.aliases ∨ Ambiguous "\x60)" d.aliases d'.aliases := by
  rw [Deployment.find?_containerLabels_rule, h.name, Deployment.find?_containerLabels_rule] at hrule
  cases hd : d.aliases with
  | nil =>
    cases hd' : d'.aliases with
    | nil => exact .inl rfl
    | cons _ _ => simp [hd, hd'] at hrule
  | cons _ _ =>
    cases hd' : d'.aliases with
    | nil => simp [hd, hd'] at hrule
    | cons _ _ =>
      apply Deployment.eq_of_hostRule
      simpa [hd, hd'] using hrule

/-- Twins with the same volumes and host names are described in the same way. -/
theorem Twins.specFor_eq {d d' : Deployment} (h : Twins d d') (hvolumes : d.volumes = d'.volumes)
    (haliases : d.aliases = d'.aliases) (f : Fleet) (name : String) (env : List String) :
    f.specFor d name env = f.specFor d' name env := by
  have himage : d.imageReference = d'.imageReference := by
    simp only [Deployment.imageReference, h.image, h.registry, h.tag]
  have hlabels : d.containerLabels f.network = d'.containerLabels f.network := by
    simp only [Deployment.containerLabels, Deployment.proxyLabels, Deployment.entryLabels,
      Deployment.serviceLabels, Deployment.limitLabels, h.name, h.ports, h.secure, h.rateLimit, haliases]
  rw [specFor, specFor, himage, hlabels, h.ports, hvolumes]

/-- **What a container tells of its deployment.** Let two deployments list no secrets and agree in all but
volumes, variables and host names. Both are described, and if the descriptions have the same binds, then the
deployments have the same volumes, or a source of one goes on with a colon from where one of the other ends;
so it is with variables and the equals sign, and with the rule by which requests are routed and the end of a
quotation. If the descriptions are the same but for the container's name, all three hold, and deployments
with the same volumes, variables and host names get the same description. -/
theorem spec_tells (f : Fleet) {d d' : Deployment} (h : Twins d d') (s s' : Daemon) :
    ∃ spec spec', ((f.spec d).run.run Daemon.serve s).1 = .ok spec ∧
      ((f.spec d').run.run Daemon.serve s').1 = .ok spec' ∧
      (spec.binds = spec'.binds → d.volumes = d'.volumes ∨ Ambiguous ":" d.volumes.keys d'.volumes.keys) ∧
      (spec.env = spec'.env → d.env = d'.env ∨ Ambiguous "=" d.env.keys d'.env.keys) ∧
      (spec.labels.find? (Deployment.routerPrefix d.name ++ ".rule")
          = spec'.labels.find? (Deployment.routerPrefix d.name ++ ".rule") →
        d.aliases = d'.aliases ∨ Ambiguous "\x60)" d.aliases d'.aliases) ∧
      ({ spec with name := spec'.name } = spec' →
        (d.volumes = d'.volumes ∨ Ambiguous ":" d.volumes.keys d'.volumes.keys) ∧
        (d.env = d'.env ∨ Ambiguous "=" d.env.keys d'.env.keys) ∧
        (d.aliases = d'.aliases ∨ Ambiguous "\x60)" d.aliases d'.aliases)) ∧
      (d.volumes = d'.volumes → d.env = d'.env → d.aliases = d'.aliases →
        { spec with name := spec'.name } = spec') := by
  have hvolumes : (d.volumes.entries.map fun e => e.1 ++ ":" ++ e.2)
        = (d'.volumes.entries.map fun e => e.1 ++ ":" ++ e.2) →
      d.volumes = d'.volumes ∨ Ambiguous ":" d.volumes.keys d'.volumes.keys :=
    IsMark.entries ⟨':', [], rfl, by simp⟩
  have henv : (d.env.entries.map fun e => e.1 ++ "=" ++ e.2)
        = (d'.env.entries.map fun e => e.1 ++ "=" ++ e.2) →
      d.env = d'.env ∨ Ambiguous "=" d.env.keys d'.env.keys :=
    IsMark.entries ⟨'=', [], rfl, by simp⟩
  refine ⟨_, _, run_spec_bare f h.noSecrets s, run_spec_bare f h.noSecrets' s', hvolumes, henv, h.aliases_eq,
    ?_, ?_⟩
  · intro hsame
    refine ⟨hvolumes (congrArg ContainerSpec.binds hsame), henv (congrArg ContainerSpec.env hsame), ?_⟩
    apply h.aliases_eq
    exact congrArg (fun spec : ContainerSpec => spec.labels.find? (Deployment.routerPrefix d.name ++ ".rule")) hsame
  · intro hsameVolumes hsameEnv hsameAliases
    have hspec := h.specFor_eq hsameVolumes hsameAliases f (newName s' d')
      (d.env.entries.map fun e => e.1 ++ "=" ++ e.2)
    rw [hsameEnv] at hspec ⊢
    exact hspec

/-- It keeps its data in a volume. -/
def keeping (place : String) : Deployment :=
  { Deployment.new "shop" "nginx" with volumes := .ofList [("data", place)] }

/-- Descriptions tell in which place of the container a volume is. -/
theorem spec_tells_place : Twins (keeping "/var/lib") (keeping "/srv") ∧
    ∃ spec spec', ((({} : Fleet).spec (keeping "/var/lib")).run.run Daemon.serve {}).1 = .ok spec ∧
      ((({} : Fleet).spec (keeping "/srv")).run.run Daemon.serve {}).1 = .ok spec' ∧
      spec.binds ≠ spec'.binds := by
  have htwins : Twins (keeping "/var/lib") (keeping "/srv") := ⟨rfl, rfl, rfl, rfl, rfl, rfl, rfl, rfl, rfl⟩
  have hvolumes : (keeping "/var/lib").volumes ≠ (keeping "/srv").volumes := by decide +kernel
  have hplain : ¬ Ambiguous ":" (keeping "/var/lib").volumes.keys (keeping "/srv").volumes.keys := by
    decide +kernel
  obtain ⟨spec, spec', hspec, hspec', hbinds, -⟩ := spec_tells {} htwins {} {}
  exact ⟨htwins, spec, spec', hspec, hspec', fun hsame => (hbinds hsame).elim hvolumes hplain⟩

/-- A volume source, a variable and a host name that hold the mark that is put behind them. -/
def marked : Deployment :=
  { Deployment.new "shop" "nginx" with
    volumes := .ofList [("a:b", "c")]
    env := .ofList [("A=B", "C")]
    aliases := ["a\x60) || Host(\x60b"] }

/-- The mark stands in the other halves, or between two host names. -/
def unmarked : Deployment :=
  { Deployment.new "shop" "nginx" with
    volumes := .ofList [("a", "b:c")]
    env := .ofList [("A", "B=C")]
    aliases := ["a", "b"] }

/-- Two deployments with different volumes, different variables and different host names that get the same
description. -/
theorem specs_coincide : Twins marked unmarked ∧ marked.volumes ≠ unmarked.volumes ∧
    marked.env ≠ unmarked.env ∧ marked.aliases ≠ unmarked.aliases ∧ marked.aliases ≠ [] ∧
    unmarked.aliases ≠ [] ∧
    ∃ spec, ((({} : Fleet).spec marked).run.run Daemon.serve {}).1 = .ok spec ∧
      ((({} : Fleet).spec unmarked).run.run Daemon.serve {}).1 = .ok spec := by
  have htwins : Twins marked unmarked := ⟨rfl, rfl, rfl, rfl, rfl, rfl, rfl, rfl, rfl⟩
  have hunnamed : ({} : Fleet).specFor marked "" (marked.env.entries.map fun e => e.1 ++ "=" ++ e.2)
      = ({} : Fleet).specFor unmarked "" (unmarked.env.entries.map fun e => e.1 ++ "=" ++ e.2) := by
    decide +kernel
  have hsame := congrArg (fun spec => { spec with name := newName {} marked }) hunnamed
  refine ⟨htwins, by decide +kernel, by decide +kernel, by decide, by decide, by decide, _,
    run_spec_bare {} htwins.noSecrets {}, ?_⟩
  exact (run_spec_bare {} htwins.noSecrets' {}).trans (congrArg Except.ok hsame.symm)

end Fleet

end Orchestrator

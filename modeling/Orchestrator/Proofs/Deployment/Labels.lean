import Orchestrator.Labels
import Orchestrator.Proofs.SortedMap.Listed
import Orchestrator.Proofs.Text.Marks

/-!
# What the labels of a container are about

Beside the owner's mark, a container has labels for the reverse proxy. But for two of them, their keys say in
turn which part of the proxy they are about, what that part is called, and what is set
(`mem_proxyLabels`). None of them replaces the owner's mark, whatever the deployment is:
`find?_containerLabels_owner`.
-/
namespace Orchestrator.Deployment

/-! ## The parts of the proxy -/

/-- What the proxy has for a deployment. -/
inductive Part where
  | router
  | service
  | middleware

namespace Part

/-- How the keys about such parts begin. -/
def start : Part → String
  | .router => "traefik.http.routers."
  | .service => "traefik.http.services."
  | .middleware => "traefik.http.middlewares."

/-- What the part for a deployment is called. -/
def title : Part → String → String
  | .middleware, name => middlewareName name
  | _, name => name

/-- The key sets something of the part with a title: a dot and a setting follow the title. -/
def Sets (p : Part) (title key : String) : Prop :=
  ∃ setting, key.toList = p.start.toList ++ (title.toList ++ '.' :: setting)

variable {p p' : Part} {t t' key : String}

theorem sets_of_dot (p : Part) (t : String) {rest : String} (h : rest.toList.head? = some '.') :
    p.Sets t (p.start ++ t ++ rest) := by
  obtain ⟨setting, hsetting⟩ := List.head?_eq_some_iff.1 h
  refine ⟨setting, ?_⟩
  simp [hsetting]

theorem Sets.append (h : p.Sets t key) (rest : String) : p.Sets t (key ++ rest) := by
  obtain ⟨setting, hsetting⟩ := h
  refine ⟨setting ++ rest.toList, ?_⟩
  simp [hsetting]

/-- The letter in which the beginnings differ. -/
def letter : Part → Char
  | .router => 'r'
  | .service => 's'
  | .middleware => 'm'

theorem getElem?_start_append (p : Part) (rest : List Char) :
    (p.start.toList ++ rest)[13]? = some p.letter := by
  cases p <;> rfl

/-- A key is about one kind of part only. -/
theorem Sets.part_eq (h : p.Sets t key) (h' : p'.Sets t' key) : p = p' := by
  obtain ⟨rest, hrest⟩ := h
  obtain ⟨rest', hrest'⟩ := h'
  have hletter : p.letter = p'.letter := by
    apply Option.some.inj
    rw [← getElem?_start_append p, ← getElem?_start_append p', ← hrest, ← hrest']
  revert hletter
  cases p <;> cases p' <;> simp [letter]

/-- A key is about one part only, if the titles of parts hold no dot. -/
theorem Sets.title_eq (h : p.Sets t key) (h' : p.Sets t' key) (ht : '.' ∉ t.toList)
    (ht' : '.' ∉ t'.toList) : t = t' := by
  obtain ⟨rest, hrest⟩ := h
  obtain ⟨rest', hrest'⟩ := h'
  rw [hrest, List.append_right_inj] at hrest'
  exact String.toList_inj.1 (Text.eq_of_mark ht ht' hrest')

theorem Sets.ne_ownerLabel (h : p.Sets t key) : key ≠ Container.ownerLabel := by
  rintro rfl
  obtain ⟨rest, hrest⟩ := h
  revert hrest
  cases p <;> simp [start, Container.ownerLabel]

end Part

/-! ## The keys of the proxy's labels -/

/-- The keys that all deployments' labels for the proxy have in common. -/
def sharedKeys : List String := ["traefik.enable", "traefik.docker.network"]

theorem Part.Sets.notMem_sharedKeys {p : Part} {t key : String} (h : p.Sets t key) : key ∉ sharedKeys := by
  intro hmem
  obtain ⟨rest, hrest⟩ := h
  simp only [sharedKeys, List.mem_cons, List.not_mem_nil, or_false] at hmem
  rcases hmem with rfl | rfl
  all_goals
    revert hrest
    cases p <;> simp [start]

variable {d : Deployment} {network : String} {e : String × String}

/-- What the entry labels set of a router. -/
def entrySettings : List String := [".entrypoints", ".tls", ".tls.certresolver"]

theorem mem_entryLabels (h : e ∈ d.entryLabels) :
    ∃ setting ∈ entrySettings, e.1 = routerPrefix d.name ++ setting := by
  unfold entryLabels at h
  split at h <;> simp only [List.mem_cons, List.not_mem_nil, or_false] at h
  · rcases h with rfl | rfl | rfl
    · exact ⟨".entrypoints", by simp [entrySettings], rfl⟩
    · exact ⟨".tls", by simp [entrySettings], rfl⟩
    · exact ⟨".tls.certresolver", by simp [entrySettings], rfl⟩
  · rcases h with rfl
    exact ⟨".entrypoints", by simp [entrySettings], rfl⟩

theorem mem_serviceLabels (h : e ∈ d.serviceLabels) : Part.service.Sets d.name e.1 := by
  unfold serviceLabels at h
  split at h
  · cases h
  · obtain rfl := List.mem_singleton.1 h
    exact Part.sets_of_dot .service d.name rfl

theorem sets_router (name : String) {setting : String} (h : setting.toList.head? = some '.') :
    Part.router.Sets name (routerPrefix name ++ setting) := Part.sets_of_dot .router name h

theorem sets_middleware (name rest : String) :
    Part.middleware.Sets (middlewareName name) (middlewarePrefix name ++ rest) :=
  (Part.sets_of_dot .middleware (middlewareName name) rfl).append rest

theorem mem_limitLabels (h : e ∈ d.limitLabels) : d.rateLimit = true ∧
    (Part.middleware.Sets (middlewareName d.name) e.1 ∨
      e = (routerPrefix d.name ++ ".middlewares", middlewareName d.name)) := by
  unfold limitLabels at h
  split at h <;> simp only [List.mem_cons, List.not_mem_nil, or_false] at h
  rename_i hlimited
  refine ⟨hlimited, ?_⟩
  rcases h with rfl | rfl | rfl
  · exact .inl (sets_middleware d.name _)
  · exact .inl (sets_middleware d.name _)
  · exact .inr rfl

/-- But for those that all deployments have, each label sets something of a part of its deployment. -/
theorem mem_proxyLabels (h : e ∈ (d.proxyLabels network).entries) :
    e.1 ∈ sharedKeys ∨ ∃ p : Part, p.Sets (p.title d.name) e.1 := by
  unfold proxyLabels at h
  split at h
  · cases h
  · have hmem := SortedMap.mem_of_mem_entries_ofList h
    simp only [List.mem_append, List.mem_cons, List.not_mem_nil, or_false] at hmem
    rcases hmem with (((rfl | rfl | rfl) | hentry) | hservice) | hlimit
    · exact .inl List.mem_cons_self
    · exact .inl (List.mem_cons_of_mem _ List.mem_cons_self)
    · exact .inr ⟨.router, sets_router d.name rfl⟩
    · obtain ⟨setting, hsetting, heq⟩ := mem_entryLabels hentry
      have hdot : ∀ setting ∈ entrySettings, setting.toList.head? = some '.' := by decide
      exact .inr ⟨.router, heq ▸ sets_router d.name (hdot setting hsetting)⟩
    · exact .inr ⟨.service, mem_serviceLabels hservice⟩
    · rcases (mem_limitLabels hlimit).2 with hsets | rfl
      · exact .inr ⟨.middleware, hsets⟩
      · exact .inr ⟨.router, sets_router d.name rfl⟩

/-! ## What is found among the labels -/

/-- Beside the owner's mark, a container has the labels for the proxy. -/
theorem find?_containerLabels (d : Deployment) (network key : String) :
    (d.containerLabels network).find? key
      = if key = Container.ownerLabel then some d.name else (d.proxyLabels network).find? key := by
  have hmark : (SortedMap.ofList [(Container.ownerLabel, d.name)]).find? key
      = if key = Container.ownerLabel then some d.name else none := by
    change ((∅ : SortedMap String String).insert Container.ownerLabel d.name).find? key = _
    simp [SortedMap.find?_insert]
  rw [containerLabels, SortedMap.find?_insertAll_entries, hmark]
  by_cases h : key = Container.ownerLabel
  · have hnone : (d.proxyLabels network).find? key = none := by
      rw [SortedMap.find?_eq_none_iff]
      intro hmem
      obtain ⟨e, he, rfl⟩ := List.mem_map.1 hmem
      rcases mem_proxyLabels he with hshared | ⟨p, hsets⟩
      · rw [h] at hshared
        exact absurd hshared (by decide)
      · exact hsets.ne_ownerLabel h
    rw [hnone, if_pos h]
    rfl
  · rw [if_neg h, if_neg h, Option.or_none]

/-- A deployment's containers carry its name under the owner's label. -/
theorem find?_containerLabels_owner (d : Deployment) (network : String) :
    (d.containerLabels network).find? Container.ownerLabel = some d.name := by
  rw [find?_containerLabels, if_pos rfl]

theorem find?_containerLabels_of_sets {p : Part} {t key : String} (h : p.Sets t key) :
    (d.containerLabels network).find? key = (d.proxyLabels network).find? key := by
  rw [find?_containerLabels, if_neg h.ne_ownerLabel]

/-- The rule by which requests come in is there if the deployment has host names. -/
theorem find?_containerLabels_rule (d : Deployment) (network : String) :
    (d.containerLabels network).find? (routerPrefix d.name ++ ".rule")
      = if d.aliases.isEmpty then none else some (hostRule d.aliases) := by
  rw [find?_containerLabels_of_sets (sets_router d.name rfl), proxyLabels]
  by_cases haliases : d.aliases.isEmpty = true
  · simp [haliases]
  · -- what stands behind the rule in the list has other keys
    have hbehind {l : List (String × String)} (hne : ∀ e ∈ l, routerPrefix d.name ++ ".rule" ≠ e.1) :
        SortedMap.lookup (routerPrefix d.name ++ ".rule") l.reverse = none := by
      rw [SortedMap.lookup_eq_none_iff]
      intro e he heq
      exact hne e (List.mem_reverse.1 he) (Std.LawfulEqOrd.eq_of_compare heq)
    have hrouter {rest : String} (hrest : ".rule" ≠ rest) :
        routerPrefix d.name ++ ".rule" ≠ routerPrefix d.name ++ rest :=
      fun heq => hrest ((String.append_right_inj _).1 heq)
    have hother {p : Part} {t key : String} (hsets : p.Sets t key) (hp : p ≠ .router) :
        routerPrefix d.name ++ ".rule" ≠ key := by
      rintro rfl
      exact hp (hsets.part_eq (sets_router d.name rfl))
    have hentry : ∀ e ∈ d.entryLabels, routerPrefix d.name ++ ".rule" ≠ e.1 := by
      intro e he
      obtain ⟨setting, hsetting, hkey⟩ := mem_entryLabels he
      have hall : ∀ setting ∈ entrySettings, ".rule" ≠ setting := by decide
      rw [hkey]
      exact hrouter (hall setting hsetting)
    have hservice : ∀ e ∈ d.serviceLabels, routerPrefix d.name ++ ".rule" ≠ e.1 :=
      fun e he => hother (mem_serviceLabels he) (by simp)
    have hlimit : ∀ e ∈ d.limitLabels, routerPrefix d.name ++ ".rule" ≠ e.1 := by
      intro e he
      rcases (mem_limitLabels he).2 with hsets | rfl
      · exact hother hsets (by simp)
      · exact hrouter (by decide)
    rw [if_neg haliases, if_neg haliases]
    simp only [SortedMap.find?_ofList, List.reverse_append, SortedMap.lookup_append, hbehind hentry,
      hbehind hservice, hbehind hlimit]
    simp [SortedMap.lookup]

end Orchestrator.Deployment

import Orchestrator.Proofs.Deployment.Labels
import Orchestrator.Proofs.Naming.Grammar

/-!
# Labels of different deployments

The proxy reads the labels of all containers together, so what one deployment's labels set must not be set
by another's. The names of deployments hold no dots, which part the keys of labels; so a key says which
deployment it is about, also where one is called like the middleware of another. The main statement is
`labels_apart`.
-/
namespace Orchestrator.Deployment

variable {d d' : Deployment} {network network' name name' key router : String}

/-! ## Whose a key is -/

theorem dot_notMem_of_isDeploymentName (h : isDeploymentName name = true) : '.' ∉ name.toList := by
  intro hmem
  have hdot := isNameChar_of_isDeploymentName h hmem
  revert hdot
  decide

theorem Part.dot_notMem_title (h : isDeploymentName name = true) (p : Part) : '.' ∉ (p.title name).toList := by
  have hname := dot_notMem_of_isDeploymentName h
  cases p with
  | router => exact hname
  | service => exact hname
  | middleware => simp [title, middlewareName, hname]

theorem Part.title_injective {p : Part} (h : p.title name = p.title name') : name = name' := by
  cases p with
  | router => exact h
  | service => exact h
  | middleware =>
    have hlist := congrArg String.toList h
    simp only [title, middlewareName, String.toList_append, List.append_left_inj] at hlist
    exact String.toList_inj.1 hlist

/-- A key of a label is the owner's mark, one that all deployments have, or about a part of the
deployment. -/
theorem mem_keys_containerLabels (h : key ∈ (d.containerLabels network).keys) :
    key ∈ Container.ownerLabel :: sharedKeys ∨ ∃ p : Part, p.Sets (p.title d.name) key := by
  rw [SortedMap.mem_keys_iff, SortedMap.contains, find?_containerLabels] at h
  by_cases howner : key = Container.ownerLabel
  · exact .inl (howner ▸ List.mem_cons_self)
  · rw [if_neg howner] at h
    obtain ⟨e, he, rfl⟩ := List.mem_map.1 (SortedMap.mem_keys_iff.2 h)
    rcases mem_proxyLabels he with hshared | hsets
    · exact .inl (List.mem_cons_of_mem _ hshared)
    · exact .inr hsets

/-- No key is about parts of two deployments. -/
theorem Part.Sets.name_eq {p p' : Part} (h : p.Sets (p.title name) key) (h' : p'.Sets (p'.title name') key)
    (hname : isDeploymentName name = true) (hname' : isDeploymentName name' = true) : name = name' := by
  obtain rfl := h.part_eq h'
  exact title_injective (h.title_eq h' (dot_notMem_title hname p) (dot_notMem_title hname' p))

/-! ## The middleware of a router -/

theorem reverse_take_append {x rest : String} {n : Nat} (h : n ≤ rest.toList.length) :
    (x ++ rest).toList.reverse.take n = rest.toList.reverse.take n := by
  rw [String.toList_append, List.reverse_append, List.take_append_of_le_length (by simpa using h)]

/-- Texts whose last two characters differ are different, whatever stands in front. -/
theorem append_ne_append {x y rest rest' : String} (h : 2 ≤ rest.toList.length) (h' : 2 ≤ rest'.toList.length)
    (hne : rest.toList.reverse.take 2 ≠ rest'.toList.reverse.take 2) : x ++ rest ≠ y ++ rest' := by
  intro heq
  apply hne
  rw [← reverse_take_append (x := x) h, heq, reverse_take_append h']

/-- A label that names the middleware of a router names that of the deployment. -/
theorem mem_middlewares {e : String × String} (h : e ∈ (d.proxyLabels network).entries)
    (hkey : e.1 = routerPrefix router ++ ".middlewares") :
    d.aliases.isEmpty = false ∧ d.rateLimit = true ∧ router = d.name ∧ e.2 = middlewareName d.name := by
  have hrouter : Part.router.Sets router e.1 := hkey ▸ sets_router router rfl
  have hunshared : e.1 ∉ sharedKeys := hrouter.notMem_sharedKeys
  have hends {setting : String} (hsetting : setting ∈ ".rule" :: entrySettings) :
      routerPrefix d.name ++ setting ≠ routerPrefix router ++ ".middlewares" := by
    have hall : ∀ setting ∈ ".rule" :: entrySettings, 2 ≤ setting.toList.length ∧
        setting.toList.reverse.take 2 ≠ ".middlewares".toList.reverse.take 2 := by decide
    obtain ⟨hlength, hne⟩ := hall setting hsetting
    exact append_ne_append hlength (by decide) hne
  unfold proxyLabels at h
  split at h
  · cases h
  · rename_i haliases
    have hmem := SortedMap.mem_of_mem_entries_ofList h
    simp only [List.mem_append, List.mem_cons, List.not_mem_nil, or_false] at hmem
    rcases hmem with (((rfl | rfl | rfl) | hentry) | hservice) | hlimit
    · exact absurd List.mem_cons_self hunshared
    · exact absurd (List.mem_cons_of_mem _ List.mem_cons_self) hunshared
    · exact absurd hkey (hends List.mem_cons_self)
    · obtain ⟨setting, hsetting, heq⟩ := mem_entryLabels hentry
      exact absurd (heq.symm.trans hkey) (hends (List.mem_cons_of_mem _ hsetting))
    · exact absurd ((mem_serviceLabels hservice).part_eq hrouter) (by simp)
    · obtain ⟨hlimited, hsets | rfl⟩ := mem_limitLabels hlimit
      · exact absurd (hsets.part_eq hrouter) (by simp)
      · dsimp only at hkey
        have hprefix : routerPrefix d.name = routerPrefix router := (String.append_left_inj _).1 hkey
        unfold routerPrefix at hprefix
        exact ⟨by simpa using haliases, hlimited, ((String.append_right_inj _).1 hprefix).symm, rfl⟩

/-- What is set of the middleware of a deployment whose rate of requests is limited. -/
theorem find?_limit (haliases : d.aliases.isEmpty = false) (hlimited : d.rateLimit = true) (network : String) :
    (d.proxyLabels network).find? (middlewarePrefix d.name ++ ".average") = some "100" ∧
      (d.proxyLabels network).find? (middlewarePrefix d.name ++ ".burst") = some "50" := by
  have hrouter (rest : String) : middlewarePrefix d.name ++ rest ≠ routerPrefix d.name ++ ".middlewares" := by
    intro heq
    have hsets := sets_middleware d.name rest
    rw [heq] at hsets
    exact absurd (hsets.part_eq (sets_router d.name rfl)) (by simp)
  have hburst : middlewarePrefix d.name ++ ".average" ≠ middlewarePrefix d.name ++ ".burst" :=
    append_ne_append (by decide) (by decide) (by decide)
  simp only [proxyLabels, haliases, Bool.false_eq_true, if_false, limitLabels, hlimited, if_true,
    SortedMap.find?_ofList, List.reverse_append, SortedMap.lookup_append]
  simp [SortedMap.lookup, hrouter, hburst]

/-- The router of a deployment whose rate of requests is limited refers to its middleware. -/
theorem find?_middlewares (haliases : d.aliases.isEmpty = false) (hlimited : d.rateLimit = true)
    (network : String) : (d.containerLabels network).find? (routerPrefix d.name ++ ".middlewares")
      = some (middlewareName d.name) := by
  rw [find?_containerLabels_of_sets (sets_router d.name rfl)]
  simp only [proxyLabels, haliases, Bool.false_eq_true, if_false, limitLabels, hlimited, if_true,
    SortedMap.find?_ofList, List.reverse_append, SortedMap.lookup_append]
  simp [SortedMap.lookup]

/-! ## Labels apart -/

/-- **Labels of different deployments.** The labels that the containers of two deployments with different
valid names get have no key in common but the owner's mark and the two that all have, and none of those of
one sets anything of a middleware that a router of the other refers to. Whatever a deployment is, a router
in its labels is its own, and the middleware that the router refers to is set up in the same labels, and the
owner's mark has the deployment's name. -/
theorem labels_apart (d d' : Deployment) (network network' : String) :
    (isDeploymentName d.name = true → isDeploymentName d'.name = true → d.name ≠ d'.name →
      (∀ key ∈ (d.containerLabels network).keys, key ∈ (d'.containerLabels network').keys →
        key ∈ Container.ownerLabel :: sharedKeys) ∧
      ∀ router middleware,
        (d.containerLabels network).find? (routerPrefix router ++ ".middlewares") = some middleware →
          ∀ key ∈ (d'.containerLabels network').keys, ¬ Part.middleware.Sets middleware key) ∧
    (∀ router middleware,
      (d.containerLabels network).find? (routerPrefix router ++ ".middlewares") = some middleware →
        router = d.name ∧
        (d.containerLabels network).find?
          ("traefik.http.middlewares." ++ middleware ++ ".ratelimit" ++ ".average") = some "100" ∧
        (d.containerLabels network).find?
          ("traefik.http.middlewares." ++ middleware ++ ".ratelimit" ++ ".burst") = some "50") ∧
    (d.containerLabels network).find? Container.ownerLabel = some d.name := by
  have hrefers {router middleware : String}
      (h : (d.containerLabels network).find? (routerPrefix router ++ ".middlewares") = some middleware) :
      d.aliases.isEmpty = false ∧ d.rateLimit = true ∧ router = d.name ∧ middleware = middlewareName d.name := by
    rw [find?_containerLabels_of_sets (sets_router router rfl)] at h
    exact mem_middlewares (SortedMap.mem_entries_iff.2 h) rfl
  refine ⟨fun hname hname' hne => ⟨?_, ?_⟩, ?_, find?_containerLabels_owner d network⟩
  · intro key hkey hkey'
    rcases mem_keys_containerLabels hkey with hshared | ⟨p, hsets⟩
    · exact hshared
    · rcases mem_keys_containerLabels hkey' with hshared | ⟨p', hsets'⟩
      · exact hshared
      · exact absurd (hsets.name_eq hsets' hname hname') hne
  · intro router middleware hfind key hkey' hsets
    obtain ⟨-, -, -, rfl⟩ := hrefers hfind
    rcases mem_keys_containerLabels hkey' with hshared | ⟨p', hsets'⟩
    · rcases List.mem_cons.1 hshared with howner | hshared
      · exact hsets.ne_ownerLabel howner
      · exact hsets.notMem_sharedKeys hshared
    · exact hne (Part.Sets.name_eq (p := .middleware) hsets hsets' hname hname')
  · intro router middleware hfind
    obtain ⟨haliases, hlimited, rfl, rfl⟩ := hrefers hfind
    obtain ⟨haverage, hburst⟩ := find?_limit haliases hlimited network
    refine ⟨rfl, ?_, ?_⟩
    · exact (find?_containerLabels_of_sets (sets_middleware d.name ".average")).trans haverage
    · exact (find?_containerLabels_of_sets (sets_middleware d.name ".burst")).trans hburst

/-- It is reached under one host name over TLS, and the rate of requests is limited. -/
def limited (name : String) : Deployment :=
  { Deployment.new name "nginx" with
    ports := .ofList [(80, 8080)]
    aliases := ["shop.example"]
    secure := true
    rateLimit := true }

/-- The labels of `api` and of a deployment that is called like the middleware of `api`. -/
theorem labels_apart_namedAlike :
    isDeploymentName (limited "api").name = true ∧ isDeploymentName (limited "api-ratelimit").name = true ∧
    (limited "api").name ≠ (limited "api-ratelimit").name ∧
    ((limited "api").containerLabels "hoist").find? (routerPrefix "api" ++ ".middlewares")
      = some "api-ratelimit" ∧
    (∀ key ∈ ((limited "api").containerLabels "hoist").keys,
      key ∈ ((limited "api-ratelimit").containerLabels "hoist").keys →
        key ∈ Container.ownerLabel :: sharedKeys) ∧
    (∀ key ∈ ((limited "api-ratelimit").containerLabels "hoist").keys,
      ¬ Part.middleware.Sets "api-ratelimit" key) ∧
    ((limited "api").containerLabels "hoist").find?
      ("traefik.http.middlewares." ++ "api-ratelimit" ++ ".ratelimit" ++ ".average") = some "100" := by
  have hname : isDeploymentName (limited "api").name = true := by decide
  have hname' : isDeploymentName (limited "api-ratelimit").name = true := by decide
  have hne : (limited "api").name ≠ (limited "api-ratelimit").name := by decide
  have hrefers : ((limited "api").containerLabels "hoist").find? (routerPrefix "api" ++ ".middlewares")
      = some "api-ratelimit" := find?_middlewares (d := limited "api") rfl rfl "hoist"
  obtain ⟨hapart, hdefined, -⟩ := labels_apart (limited "api") (limited "api-ratelimit") "hoist" "hoist"
  obtain ⟨hkeys, hforeign⟩ := hapart hname hname' hne
  exact ⟨hname, hname', hne, hrefers, hkeys, hforeign "api" "api-ratelimit" hrefers,
    (hdefined "api" "api-ratelimit" hrefers).2.1⟩

end Orchestrator.Deployment

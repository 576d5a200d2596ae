import Orchestrator.Deployment.Basic

/-!
# Which image a deployment is run from

Two places decide on their own what is missing: defaults are filled in for what is blank, but a reference is
written as if only what is empty were missing; and the default registry is left out of a reference before the
slashes behind a registry are dropped. So filling in the defaults keeps the reference just if registry and tag
are not blank without being empty, and slashes may be put behind any registry but the default one:
`reference_kept_iff`. The default registry with a slash behind it is another registry:
`default_registry_slashed`.
-/
namespace Orchestrator

/-- Characters at the end that are dropped may be put there. -/
theorem Text.dropEndWhile_append_replicate {α : Type} {p : α → Bool} {a : α} (h : p a = true) (s : List α)
    (n : Nat) : dropEndWhile p (s ++ List.replicate n a) = dropEndWhile p s := by
  have hall : ∀ x ∈ (List.replicate n a).reverse, p x = true := fun x hx => by
    rw [List.reverse_replicate, List.mem_replicate] at hx
    rw [hx.2]
    exact h
  rw [dropEndWhile, dropEndWhile, List.reverse_append, List.dropWhile_append_of_pos hall]

theorem Text.isBlank_of_mem {s : String} (h : isBlankText s = true) {c : Char} (hc : c ∈ s.toList) :
    isBlank c = true := List.all_eq_true.1 h c hc

namespace Deployment

variable {d : Deployment} {n : Nat}

/-! ## The parts of a reference -/

/-- What stands in front of the image. -/
def registryPart (d : Deployment) : String :=
  if d.registry = "" ∨ d.registry = defaultRegistry then ""
  else String.ofList (Text.dropEndWhile (· = '/') d.registry.toList) ++ "/"

/-- What stands behind the colon. -/
def tagPart (d : Deployment) : String := if d.tag = "" then defaultTag else d.tag

theorem imageReference_eq (d : Deployment) :
    d.imageReference = d.registryPart ++ d.image ++ ":" ++ d.tagPart := by
  unfold imageReference registryPart tagPart
  dsimp only
  by_cases h : d.registry = "" ∨ d.registry = defaultRegistry
  · rw [if_pos h, if_pos h, String.empty_append]
  · rw [if_neg h, if_neg h]

/-- Only the default registry, or none, leaves nothing in front of the image. -/
theorem registryPart_eq_empty_iff :
    d.registryPart = "" ↔ d.registry = "" ∨ d.registry = defaultRegistry := by
  unfold registryPart
  by_cases h : d.registry = "" ∨ d.registry = defaultRegistry
  · rw [if_pos h]
    exact iff_of_true rfl h
  · rw [if_neg h]
    refine iff_of_false (fun hempty => ?_) h
    have hlength := congrArg String.length hempty
    simp at hlength

/-- The default registry is not blank. -/
theorem isBlankText_defaultRegistry : Text.isBlankText defaultRegistry = false := by decide

theorem registryPart_withDefaults (d : Deployment) :
    d.withDefaults.registryPart = if Text.isBlankText d.registry then "" else d.registryPart := by
  by_cases h : Text.isBlankText d.registry = true
  · rw [if_pos h]
    exact registryPart_eq_empty_iff.2 (.inr (if_pos h))
  · have hregistry : d.withDefaults.registry = d.registry := if_neg h
    rw [if_neg h, registryPart, registryPart, hregistry]

theorem tagPart_withDefaults (d : Deployment) :
    d.withDefaults.tagPart = if Text.isBlankText d.tag then defaultTag else d.tag := by
  unfold withDefaults tagPart
  dsimp only
  by_cases h : Text.isBlankText d.tag = true
  · rw [if_pos h]
    exact if_neg (by decide)
  · rw [if_neg h, if_neg]
    rintro hempty
    rw [hempty] at h
    exact h rfl

/-! ## Defaults -/

/-- A blank tag, unless it is empty, is seen at the end of the reference; filled in it is not. -/
theorem reference_ne_of_blank_tag (htag : Text.isBlankText d.tag = true) (hne : d.tag ≠ "") :
    d.withDefaults.imageReference ≠ d.imageReference := by
  intro hsame
  rw [imageReference_eq, imageReference_eq, tagPart_withDefaults, if_pos htag, tagPart, if_neg hne] at hsame
  have hchars := congrArg (fun s => s.toList.getLast?) hsame
  simp only [String.toList_append, List.getLast?_append] at hchars
  obtain ⟨c, hc⟩ : ∃ c, d.tag.toList.getLast? = some c := by
    refine Option.isSome_iff_exists.1 (List.getLast?_isSome.2 fun hnil => hne ?_)
    exact String.toList_inj.1 hnil
  have hlast : defaultTag.toList.getLast? = some 't' := by decide
  rw [hc, hlast, Option.some_or, Option.some_or] at hchars
  obtain rfl := Option.some.inj hchars
  have hblank := Text.isBlank_of_mem htag (List.mem_of_getLast? hc)
  cases hblank

/-- Defaults keep the reference of a deployment unless its registry or its tag is blank without being
empty. -/
theorem reference_withDefaults_iff (d : Deployment) :
    d.withDefaults.imageReference = d.imageReference ↔
      (Text.isBlankText d.registry = true → d.registry = "") ∧
        (Text.isBlankText d.tag = true → d.tag = "") := by
  by_cases htag : Text.isBlankText d.tag = true → d.tag = ""
  · -- with such a tag all is decided in front of the image
    have hpart : d.withDefaults.tagPart = d.tagPart := by
      rw [tagPart_withDefaults, tagPart]
      by_cases hempty : d.tag = ""
      · have hblank : Text.isBlankText d.tag = true := by rw [hempty]; rfl
        rw [if_pos hempty, if_pos hblank]
      · rw [if_neg hempty, if_neg fun hblank => hempty (htag hblank)]
    have himage : d.withDefaults.image = d.image := rfl
    rw [imageReference_eq, imageReference_eq, hpart, himage, and_iff_left htag, registryPart_withDefaults]
    by_cases hblank : Text.isBlankText d.registry = true
    · rw [if_pos hblank]
      constructor
      · intro hsame _
        have hempty : d.registryPart = "" := by simpa using congrArg String.length hsame
        rcases registryPart_eq_empty_iff.1 hempty with hempty | hdefault
        · exact hempty
        · rw [hdefault, isBlankText_defaultRegistry] at hblank
          cases hblank
      · intro hempty
        rw [registryPart_eq_empty_iff.2 (.inl (hempty hblank))]
    · rw [if_neg hblank]
      exact iff_of_true rfl fun h => absurd h hblank
  · obtain ⟨hblank, hne⟩ := Classical.not_imp.1 htag
    exact iff_of_false (reference_ne_of_blank_tag hblank hne) fun h => htag h.2

/-! ## Slashes -/

/-- The deployment with slashes put behind its registry. -/
def withSlashes (d : Deployment) (n : Nat) : Deployment :=
  { d with registry := d.registry ++ String.ofList (List.replicate n '/') }

theorem withSlashes_zero (d : Deployment) : d.withSlashes 0 = d := by
  have hregistry : d.registry ++ String.ofList (List.replicate 0 '/') = d.registry := String.append_empty
  rw [withSlashes, hregistry]

/-- No registry with a slash behind it is written as the default one. -/
theorem withSlashes_ne_default (d : Deployment) (n : Nat) :
    (d.withSlashes (n + 1)).registry ≠ "" ∧ (d.withSlashes (n + 1)).registry ≠ defaultRegistry := by
  have hlast : (d.withSlashes (n + 1)).registry.toList.getLast? = some '/' := by
    rw [withSlashes, String.toList_append, String.toList_ofList, List.replicate_succ',
      ← List.append_assoc, List.getLast?_concat]
  constructor <;>
  · intro heq
    rw [heq] at hlast
    revert hlast
    decide

/-- Slashes behind a registry do not change the reference, unless it is the default registry. -/
theorem reference_withSlashes_iff (hregistry : d.registry ≠ "") (n : Nat) :
    (d.withSlashes n).imageReference = d.imageReference ↔ n = 0 ∨ d.registry ≠ defaultRegistry := by
  cases n with
  | zero =>
    rw [withSlashes_zero]
    exact iff_of_true rfl (.inl rfl)
  | succ n =>
    obtain ⟨hempty, hdefault⟩ := d.withSlashes_ne_default n
    have hdrop : Text.dropEndWhile (· = '/') (d.registry.toList ++ List.replicate (n + 1) '/')
        = Text.dropEndWhile (· = '/') d.registry.toList := Text.dropEndWhile_append_replicate rfl _ _
    have hpart : (d.withSlashes (n + 1)).registryPart
        = String.ofList (Text.dropEndWhile (· = '/') d.registry.toList) ++ "/" := by
      rw [registryPart, if_neg (not_or.2 ⟨hempty, hdefault⟩), withSlashes, String.toList_append,
        String.toList_ofList, hdrop]
    have htag : (d.withSlashes (n + 1)).tagPart = d.tagPart := rfl
    have himage : (d.withSlashes (n + 1)).image = d.image := rfl
    rw [imageReference_eq, imageReference_eq, htag, himage, or_iff_right (Nat.succ_ne_zero n)]
    constructor
    · rintro hsame hplain
      have hlength := congrArg String.length hsame
      rw [registryPart_eq_empty_iff.2 (.inr hplain), hpart] at hlength
      simp at hlength
    · intro hplain
      rw [hpart, registryPart, if_neg (not_or.2 ⟨hregistry, hplain⟩)]

/-- The image alone is what a deployment with its defaults is run from just if its registry is blank or
written as the default one. -/
theorem reference_short_iff (d : Deployment) :
    d.withDefaults.imageReference
        = d.image ++ ":" ++ (if Text.isBlankText d.tag then defaultTag else d.tag) ↔
      Text.isBlankText d.registry = true ∨ d.registry = defaultRegistry := by
  have himage : d.withDefaults.image = d.image := rfl
  rw [imageReference_eq, himage, tagPart_withDefaults, registryPart_withDefaults]
  by_cases hblank : Text.isBlankText d.registry = true
  · rw [if_pos hblank, String.empty_append]
    exact iff_of_true rfl (.inl hblank)
  · have hempty : d.registry ≠ "" := fun hempty => hblank (by rw [hempty]; rfl)
    rw [if_neg hblank, or_iff_right hblank]
    constructor
    · intro hsame
      have hlength := congrArg String.length hsame
      simp only [String.length_append] at hlength
      have hpart : d.registryPart = "" := String.length_eq_zero_iff.1 (by omega)
      exact (registryPart_eq_empty_iff.1 hpart).resolve_left hempty
    · intro hdefault
      rw [registryPart_eq_empty_iff.2 (.inr hdefault), String.empty_append]

/-- **What keeps the reference of an image.** Filling in the defaults does, unless the registry or the tag is
blank without being empty; slashes behind a registry do, unless it is the default registry. With its defaults
a deployment is run from the image alone just if its registry is blank or written as the default one. -/
theorem reference_kept_iff (d : Deployment) :
    (d.withDefaults.imageReference = d.imageReference ↔
      (Text.isBlankText d.registry = true → d.registry = "") ∧
        (Text.isBlankText d.tag = true → d.tag = "")) ∧
    (d.registry ≠ "" → ∀ n, (d.withSlashes n).imageReference = d.imageReference ↔
      n = 0 ∨ d.registry ≠ defaultRegistry) ∧
    (d.withDefaults.imageReference
        = d.image ++ ":" ++ (if Text.isBlankText d.tag then defaultTag else d.tag) ↔
      Text.isBlankText d.registry = true ∨ d.registry = defaultRegistry) :=
  ⟨d.reference_withDefaults_iff, reference_withSlashes_iff, d.reference_short_iff⟩

/-- An image of a registry of its own is the same with slashes behind the registry and a tag filled in. -/
theorem reference_kept_ghcr :
    let d : Deployment := { new "api" "team/api" with registry := "ghcr.io", tag := "" }
    d.registry ≠ "" ∧ (d.withSlashes 2).imageReference = d.imageReference ∧
      d.withDefaults.imageReference = d.imageReference ∧ d.imageReference = "ghcr.io/team/api:latest" := by
  intro d
  have hregistry : d.registry ≠ "" := by decide
  obtain ⟨hdefaults, hslashes, -⟩ := reference_kept_iff d
  exact ⟨hregistry, (hslashes hregistry 2).2 (.inr (by decide)), hdefaults.2 ⟨by decide, fun _ => rfl⟩,
    by decide⟩

/-- The default registry with a slash behind it, and a tag that is blank without being empty: filling in the
defaults changes the reference, and so does the slash. -/
theorem default_registry_slashed :
    let d : Deployment := { new "api" "nginx" with registry := "docker.io", tag := " " }
    (d.withSlashes 1).imageReference = "docker.io/nginx: " ∧
      (d.withSlashes 1).withDefaults.imageReference = "docker.io/nginx:latest" ∧
      (d.withSlashes 1).withDefaults.imageReference ≠ (d.withSlashes 1).imageReference ∧
      d.registry ≠ "" ∧ (d.withSlashes 1).imageReference ≠ d.imageReference ∧
      d.withDefaults.imageReference = "nginx:latest" := by
  decide

end Deployment

end Orchestrator

import Mathlib
import RecipeCatalog.Text.Point

/-!
# Plain text

Text without lone surrogates is plain text: it reads back as a `String` that gives it again.
The catalogue keeps the text fields of a candidate as plain text, so these facts carry a
submitted value to the stored one and back.

* `Text.ofString_of_toString?` — text read as plain text is that text again;
* `Text.toString?_of_hasLone` — text with no lone surrogate reads as plain text;
* `Text.hasLone_ofString` — plain text has no lone surrogate.
-/

set_option autoImplicit false

namespace RecipeCatalog

namespace Text

theorem firstLone?_go_chars (i : Nat) (cs : List Char) :
    firstLone?.go i (cs.map Point.char) = none := by
  induction cs generalizing i with
  | nil => rfl
  | cons c cs ih => exact ih (i + 1)

@[simp] theorem hasLone_ofString (s : String) : (ofString s).hasLone = false := by
  simp [hasLone, firstLone?, ofString, firstLone?_go_chars]

theorem eq_map_char_of_mapM {ps : List Point} {cs : List Char}
    (h : ps.mapM Point.char? = some cs) : ps = cs.map Point.char := by
  induction ps generalizing cs with
  | nil =>
    simp at h
    simp [h]
  | cons p ps ih =>
    cases p with
    | char c =>
      simp only [List.mapM_cons, Point.char?, Option.pure_def, Option.bind_eq_bind,
        Option.bind_some] at h
      cases hr : ps.mapM Point.char? with
      | none => simp [hr] at h
      | some rest =>
        simp only [hr, Option.bind_some, Option.some.injEq] at h
        subst h
        simp [ih hr]
    | lone s => simp [Point.char?] at h

/-- **Text read as plain text is that text again.** -/
theorem ofString_of_toString? {t : Text} {s : String} (h : t.toString? = some s) :
    ofString s = t := by
  obtain ⟨cs, hcs, rfl⟩ := Option.map_eq_some_iff.1 h
  have hps : t.points = cs.map Point.char := eq_map_char_of_mapM hcs
  rw [ofString, String.toList_ofList, ← hps]

theorem mapM_char?_of_go : ∀ (ps : List Point) (i : Nat), firstLone?.go i ps = none →
    ∃ cs, ps.mapM Point.char? = some cs
  | [], _, _ => ⟨[], rfl⟩
  | .char c :: ps, i, h => by
    obtain ⟨cs, hcs⟩ := mapM_char?_of_go ps (i + 1) h
    exact ⟨c :: cs, by simp [List.mapM_cons, Point.char?, hcs]⟩
  | .lone _ :: _, _, h => by simp [firstLone?.go] at h

/-- Text with no lone surrogate reads as plain text. -/
theorem toString?_of_hasLone {t : Text} (h : t.hasLone = false) : ∃ s, t.toString? = some s := by
  obtain ⟨cs, hcs⟩ := mapM_char?_of_go t.points 0 (by simpa [hasLone, firstLone?] using h)
  exact ⟨String.ofList cs, by simp [toString?, hcs]⟩

theorem hasLone_eq_false_of_toString? {t : Text} {s : String} (h : t.toString? = some s) :
    t.hasLone = false := by
  rw [← ofString_of_toString? h, hasLone_ofString]

theorem is_iff {t : Text} {s : String} : t.is s = true ↔ t = ofString s := by
  simp [is]

theorem firstLone?_go_of_chars : ∀ (ps : List Point) (i : Nat), (∀ p ∈ ps, ∃ c, p = .char c) →
    firstLone?.go i ps = none
  | [], _, _ => rfl
  | p :: ps, i, h => by
    obtain ⟨c, rfl⟩ := h p (by simp)
    exact firstLone?_go_of_chars ps (i + 1) (fun q hq => h q (by simp [hq]))

/-- Text whose points are all scalar values has no lone surrogate. -/
theorem hasLone_eq_false_of_chars {t : Text} (h : ∀ p ∈ t.points, ∃ c, p = .char c) :
    t.hasLone = false := by
  simp [hasLone, firstLone?, firstLone?_go_of_chars t.points 0 h]

end Text

end RecipeCatalog

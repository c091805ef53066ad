import Mathlib
import RecipeCatalog.Proofs.Http.Requests

/-!
# Versions guard against lost updates

An update names the version its client last read; the store refuses it when the recipe is at a
later version, and otherwise counts the version up by one. Since a version only ever grows by
the updates of its recipe (`Store.version_eq_versionOf_add_count`), whatever the interleaving of
the clients' calls and requests:

* `Store.version_lt_of_updatedWith_twice` — two successful updates of a recipe by tokens of
  the same version `k` find it, at the earlier, at a version below `k`;
* `Store.not_updatedWith_after_read` — **of several updates based on one read, at most one
  succeeds**;
* `Store.update_succeeds_iff` — an update based on a read passes the version check exactly when
  the recipe is still there and no update of it succeeded since;
* `Store.fetch_status_eq_304_iff` — a fetch naming the entity tag of a read is answered `304`
  exactly then as well.

`Store.versions_prevent_lost_updates` states the four together for every reachable store.
-/

set_option autoImplicit false

namespace RecipeCatalog

namespace Http.Rest

theorem etag_inj {v w : Nat} : etag v = etag w ↔ v = w := by
  constructor
  · intro h
    unfold etag at h
    exact Nat.repr_inj.1 ((String.append_right_inj _).1 ((String.append_left_inj _).1 h))
  · rintro rfl
    rfl

theorem status_json (status : Nat) (v : Value) (headers : List (String × String)) :
    (Response.json status v headers).status = status ∨
      (Response.json status v headers).status = 500 := by
  unfold Response.json
  split
  · exact .inl rfl
  · exact .inr rfl

end Http.Rest

namespace Store

variable {s s₁ s₂ : Store}

/-- A successful update of the recipe with id `x` from `s` to `s'`, by a token that reads as
version `k`. -/
def UpdatedWith (s : Store) (x : String) (k : Int) (s' : Store) : Prop :=
  ∃ c t n, Recipe.string? c .id = some x ∧ Version.read t = .ok (some k) ∧
    s.update c (some t) = .ok (.ok n, s')

theorem get?_replace {key : String} {old new : Recipe} (hg : s.get? key = some old)
    (hid : new.id = key)
    (hr : s₁.recipes = s.recipes.map fun x => if x.id == key then new else x) :
    s₁.get? key = some new := by
  have hkey := (mem_of_get? hg).2
  have hsame : ((·.id == key) ∘ fun x : Recipe => if x.id == key then new else x) =
      (·.id == key) := by
    funext x
    simp only [Function.comp_apply, id_replace hid]
  unfold get? at hg ⊢
  rw [hr, List.find?_map, hsame, hg]
  simp [hkey]

/-- **What a successful update did**: the recipe with the id was at a version not above the
token's and is now one version further, and the store stays valid. -/
theorem UpdatedWith.spec (hv : s.Valid) {x : String} {k : Int} (h : s.UpdatedWith x k s₁) :
    ∃ old, s.get? x = some old ∧ (old.version : Int) ≤ k ∧ s₁.Valid ∧
      s₁.versionOf x = old.version + 1 := by
  obtain ⟨c, t, n, hx, hk, hu⟩ := h
  obtain ⟨t', v, key, old, ht, hr, hc, hkey, hg, hown, hle, -, hs₁⟩ := update_eq_ok_ok hu
  cases ht
  have hvk : v = k := by
    rw [hr] at hk
    injection hk with hk
    injection hk
  have hkx : key = x := by
    rw [hkey] at hx
    injection hx
  subst hvk hkx
  have hstep : Step s (some key) s₁ := .update c key old hc hg hown (by rw [hs₁]) (by rw [hs₁])
  have hget : s₁.get? key = some (old.overwrite (Recipe.ofChecked c key 0)) :=
    get?_replace hg (id_overwrite hg _) (by rw [hs₁])
  refine ⟨old, hg, hle, hstep.valid hv, ?_⟩
  simp [versionOf, hget, Recipe.overwrite]

theorem version_le_run (hv : s.Valid) {x : String} {r₀ : Recipe} (hread : s.get? x = some r₀)
    (cs : List Call) {r : Recipe} (hr : r ∈ (s.run cs).recipes) (hx : r.id = x) :
    r₀.version + (s.updates cs).count x = r.version := by
  have h := version_eq_versionOf_add_count hv cs r hr
  rw [hx, show s.versionOf x = r₀.version by simp [versionOf, hread]] at h
  exact h.symm

/-- **Two successful updates of a recipe by tokens of one version `k`**, with any calls and
requests between them, **find it at the earlier one at a version below `k`.** -/
theorem version_lt_of_updatedWith_twice (hv : s.Valid) {x : String} {k : Int}
    (h₁ : s.UpdatedWith x k s₁) (mid : List Act) (h₂ : (s₁.play mid).UpdatedWith x k s₂) :
    ∃ old, s.get? x = some old ∧ (old.version : Int) < k := by
  obtain ⟨old, hg, -, hv₁, hver⟩ := h₁.spec hv
  obtain ⟨cs, hcs⟩ := s₁.play_issues mid
  rw [hcs] at h₂
  obtain ⟨old₂, hg₂, hle₂, -⟩ := h₂.spec (valid_run hv₁ cs)
  obtain ⟨hmem₂, hid₂⟩ := mem_of_get? hg₂
  have hgrow := version_eq_versionOf_add_count hv₁ cs old₂ hmem₂
  rw [hid₂, hver] at hgrow
  exact ⟨old, hg, by omega⟩

/-- **Of several updates based on one read, at most one succeeds**: after one update by a token
of the version read, with any calls and requests before and after it, no other does. -/
theorem not_updatedWith_after_read (hv : s.Valid) {x : String} {r₀ : Recipe}
    (hread : s.get? x = some r₀) (pre mid : List Act)
    (h₁ : (s.play pre).UpdatedWith x r₀.version s₁) :
    ¬ (s₁.play mid).UpdatedWith x r₀.version s₂ := by
  intro h₂
  obtain ⟨cs, hcs⟩ := s.play_issues pre
  rw [hcs] at h₁
  obtain ⟨old, hg, hlt⟩ := version_lt_of_updatedWith_twice (valid_run hv cs) h₁ mid h₂
  obtain ⟨hmem, hid⟩ := mem_of_get? hg
  have := version_le_run hv hread cs hmem hid
  omega

/-- **An update based on a read passes the version check exactly when the recipe is still there
and no update of it succeeded since the read**; its other checks passing, it then succeeds. -/
theorem update_succeeds_iff (hv : s.Valid) {x : String} {r₀ : Recipe}
    (hread : s.get? x = some r₀) (cs : List Call) {c : Fields} {t : Text}
    (hk : Version.read t = .ok (some r₀.version))
    (hc : Candidate.check c false = .ok Report.empty) (hx : Recipe.string? c .id = some x)
    (hown : ∀ owner, (s.run cs).ownerOfName? (Recipe.string c .name) = some owner → owner = x) :
    (∃ n s', (s.run cs).update c (some t) = .ok (.ok n, s')) ↔
      x ∈ (s.run cs).recipes.map (·.id) ∧ (s.updates cs).count x = 0 := by
  have hv' := valid_run hv cs
  rw [update_of_checks hk hc hx hown]
  cases hg : (s.run cs).get? x with
  | none =>
    constructor
    · rintro ⟨n, s', h⟩
      cases h
    · rintro ⟨hmem, -⟩
      obtain ⟨r, hr, rfl⟩ := List.mem_map.1 hmem
      rw [hv'.get?_of_mem hr] at hg
      cases hg
  | some old =>
    obtain ⟨hmem, hid⟩ := mem_of_get? hg
    have hcount := version_le_run hv hread cs hmem hid
    have hin : x ∈ (s.run cs).recipes.map (·.id) := List.mem_map.2 ⟨old, hmem, hid⟩
    by_cases hlt : (r₀.version : Int) < old.version
    · -- an update succeeded since the read: refused as outdated
      simp only [hlt, if_true]
      constructor
      · rintro ⟨n, s', h⟩
        cases h
      · rintro ⟨-, h0⟩
        omega
    · simp only [hlt, if_false]
      exact ⟨fun _ => ⟨hin, by omega⟩, fun _ => ⟨_, _, rfl⟩⟩

/-- **A fetch naming the entity tag of a read is answered `304` exactly when the recipe is still
there and no update of it succeeded since the read.** -/
theorem fetch_status_eq_304_iff (hv : s.Valid) {x : String} {r₀ : Recipe}
    (hread : s.get? x = some r₀) (cs : List Call) (r : Http.Request)
    (hm : r.header? "if-none-match" = some (Http.Rest.etag r₀.version)) :
    (Http.Rest.fetch (s.run cs) r x).status = 304 ↔
      x ∈ (s.run cs).recipes.map (·.id) ∧ (s.updates cs).count x = 0 := by
  have hv' := valid_run hv cs
  unfold Http.Rest.fetch findById
  rw [lookup_ofString]
  cases hg : (s.run cs).get? x with
  | none =>
    have hout : x ∉ (s.run cs).recipes.map (·.id) := by
      intro hmem
      obtain ⟨r', hr', rfl⟩ := List.mem_map.1 hmem
      rw [hv'.get?_of_mem hr'] at hg
      cases hg
    simp only [hout, false_and, iff_false]
    unfold Http.Response.detail
    rcases Http.Rest.status_json 404 (Value.obj [("detail", .ofString "Not Found")]) [] with h | h <;>
      rw [h] <;> decide
  | some old =>
    obtain ⟨hmem, hid⟩ := mem_of_get? hg
    have hcount := version_le_run hv hread cs hmem hid
    have hin : x ∈ (s.run cs).recipes.map (·.id) := List.mem_map.2 ⟨old, hmem, hid⟩
    simp only [hin, true_and, hm]
    by_cases heq : r₀.version = old.version
    · have htag : (some (Http.Rest.etag r₀.version) == some (Http.Rest.etag old.version)) =
          true := by
        rw [heq]
        exact beq_self_eq_true _
      simp only [htag, if_true]
      exact ⟨fun _ => by omega, fun _ => rfl⟩
    · have htag : (some (Http.Rest.etag r₀.version) == some (Http.Rest.etag old.version)) =
          false := by
        simpa [Http.Rest.etag_inj] using heq
      simp only [htag, Bool.false_eq_true, if_false]
      constructor
      · intro h
        rcases Http.Rest.status_json 200 _ _ with h' | h' <;> rw [h'] at h <;> cases h
      · intro h
        omega

/-! ## Lost updates -/

/-- **Versions guard every recipe of a reachable store against lost updates**, whatever calls
and requests interleave: two successful updates of `x` by tokens of one version `k` find it, at
the earlier one, below `k`; of several updates based on one read of `x`, at most one succeeds;
one based on the read passes the version check (its other checks passing) exactly when `x` is
still there and no update of it succeeded since the read, and a fetch naming the read's entity
tag is answered `304` exactly then. -/
theorem versions_prevent_lost_updates (s : Store) (hs : s.Reachable) (x : String) :
    (∀ (k : Int) (s₁ s₂ : Store) (mid : List Act), s.UpdatedWith x k s₁ →
      (s₁.play mid).UpdatedWith x k s₂ → ∃ old, s.get? x = some old ∧ (old.version : Int) < k) ∧
    ∀ r₀ : Recipe, s.get? x = some r₀ →
      (∀ (pre mid : List Act) (s₁ s₂ : Store), (s.play pre).UpdatedWith x r₀.version s₁ →
        ¬ (s₁.play mid).UpdatedWith x r₀.version s₂) ∧
      (∀ (cs : List Call) (c : Fields) (t : Text), Version.read t = .ok (some r₀.version) →
        Candidate.check c false = .ok Report.empty → Recipe.string? c .id = some x →
        (∀ owner, (s.run cs).ownerOfName? (Recipe.string c .name) = some owner → owner = x) →
        ((∃ n s', (s.run cs).update c (some t) = .ok (.ok n, s')) ↔
          x ∈ (s.run cs).recipes.map (·.id) ∧ (s.updates cs).count x = 0)) ∧
      ∀ (cs : List Call) (r : Http.Request),
        r.header? "if-none-match" = some (Http.Rest.etag r₀.version) →
        ((Http.Rest.fetch (s.run cs) r x).status = 304 ↔
          x ∈ (s.run cs).recipes.map (·.id) ∧ (s.updates cs).count x = 0) := by
  have hv := hs.valid
  refine ⟨fun k s₁ s₂ mid h₁ h₂ => version_lt_of_updatedWith_twice hv h₁ mid h₂,
    fun r₀ hread => ⟨fun pre mid s₁ s₂ h₁ => not_updatedWith_after_read hv hread pre mid h₁,
      fun cs c t hk hc hx hown => update_succeeds_iff hv hread cs hk hc hx hown,
      fun cs r hm => fetch_status_eq_304_iff hv hread cs r hm⟩⟩

/-- The sample recipes are a reachable store for `versions_prevent_lost_updates`. -/
theorem seeded_versions_prevent_lost_updates :
    seeded.Reachable ∧
    (∀ (k : Int) (s₁ s₂ : Store) (mid : List Act),
      seeded.UpdatedWith "00000000-0000-0000-0000-000000000001" k s₁ →
      (s₁.play mid).UpdatedWith "00000000-0000-0000-0000-000000000001" k s₂ →
      ∃ old, seeded.get? "00000000-0000-0000-0000-000000000001" = some old ∧
        (old.version : Int) < k) ∧
    ∀ r₀ : Recipe, seeded.get? "00000000-0000-0000-0000-000000000001" = some r₀ →
      (∀ (pre mid : List Act) (s₁ s₂ : Store),
        (seeded.play pre).UpdatedWith "00000000-0000-0000-0000-000000000001" r₀.version s₁ →
        ¬ (s₁.play mid).UpdatedWith "00000000-0000-0000-0000-000000000001" r₀.version s₂) ∧
      (∀ (cs : List Call) (c : Fields) (t : Text), Version.read t = .ok (some r₀.version) →
        Candidate.check c false = .ok Report.empty →
        Recipe.string? c .id = some "00000000-0000-0000-0000-000000000001" →
        (∀ owner, (seeded.run cs).ownerOfName? (Recipe.string c .name) = some owner →
          owner = "00000000-0000-0000-0000-000000000001") →
        ((∃ n s', (seeded.run cs).update c (some t) = .ok (.ok n, s')) ↔
          "00000000-0000-0000-0000-000000000001" ∈ (seeded.run cs).recipes.map (·.id) ∧
            (seeded.updates cs).count "00000000-0000-0000-0000-000000000001" = 0)) ∧
      ∀ (cs : List Call) (r : Http.Request),
        r.header? "if-none-match" = some (Http.Rest.etag r₀.version) →
        ((Http.Rest.fetch (seeded.run cs) r "00000000-0000-0000-0000-000000000001").status =
            304 ↔
          "00000000-0000-0000-0000-000000000001" ∈ (seeded.run cs).recipes.map (·.id) ∧
            (seeded.updates cs).count "00000000-0000-0000-0000-000000000001" = 0) :=
  ⟨reachable_seeded, versions_prevent_lost_updates seeded reachable_seeded _⟩

end Store

end RecipeCatalog

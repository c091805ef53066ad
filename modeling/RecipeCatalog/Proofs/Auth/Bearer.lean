import Mathlib
import RecipeCatalog.Proofs.Http.ReadBack
import RecipeCatalog.Proofs.Catalog.Search

/-!
# Bearer tokens are looked up

The verifier does not look a token up: it walks the table in order and compares the UTF-8 form
of each key with that of the token. Since UTF-8 is one-to-one on plain text, **the walk answers
what a lookup answers, unless it meets text that has no UTF-8 form**, which faults
(`TokenTable.verify_cases`). A request is then accepted exactly when its `Authorization` header,
split at its first space, has the scheme `bearer` in any case and a credential the table knows
(`Http.Rest.authorize_eq_ok_iff`); an empty credential counts as none.

* `TokenTable.Unencodable` — the walk meets the token or an earlier key holding a lone surrogate;
* `Http.Rest.bearer?_eq_some_iff` — the credentials a header carries, said by concatenation.
-/

set_option autoImplicit false

namespace RecipeCatalog

namespace TokenTable

/-- Whether looking a token up meets text that has no UTF-8 form: the token itself, once there is
a key to compare it with, or a key compared before the token's own entry. -/
def Unencodable (T : TokenTable) (t : Text) : Prop :=
  (T ≠ [] ∧ t.hasLone = true) ∨ ∃ k ∈ (T.map Prod.fst).takeWhile (· != t), k.hasLone = true

theorem utf8?_beq {k t : Text} {a b : String} (hk : k.utf8? = .ok a) (ht : t.utf8? = .ok b) :
    (a == b) = (k == t) := by
  rw [Text.eq_ofString_of_utf8? hk, Text.eq_ofString_of_utf8? ht]
  by_cases hab : a = b
  · simp [hab]
  · have hne : Text.ofString a ≠ Text.ofString b := fun h => hab (Text.ofString_inj h)
    simp [hab, hne]

theorem unencodable_cons_of_hasLone {k t : Text} (hk : k.hasLone = true) (u : Value)
    (rest : TokenTable) : Unencodable ((k, u) :: rest) t := by
  by_cases ht : t.hasLone = true
  · exact .inl ⟨List.cons_ne_nil _ _, ht⟩
  · -- a plain token is not the key, so the key is compared
    have hne : k ≠ t := by
      rintro rfl
      exact ht hk
    exact .inr ⟨k, by simp [hne], hk⟩

theorem not_unencodable_cons_self {t : Text} (ht : t.hasLone = false) (u : Value)
    (rest : TokenTable) : ¬ Unencodable ((t, u) :: rest) t := by
  rintro (⟨-, h⟩ | ⟨k, hk, -⟩)
  · rw [ht] at h
    cases h
  · simp at hk

theorem unencodable_cons_iff {k t : Text} (hk : k.hasLone = false) (ht : t.hasLone = false)
    (hne : k ≠ t) (u : Value) (rest : TokenTable) :
    Unencodable ((k, u) :: rest) t ↔ Unencodable rest t := by
  simp [Unencodable, ht, hne, hk]

/-- **The verifier answers the lookup, having met only text with a UTF-8 form, or faults,
having met text without one.** -/
theorem verify_cases (T : TokenTable) (t : Text) :
    (T.verify t = .ok (T.lookup t) ∧ ¬ T.Unencodable t) ∨
      ((∃ f, T.verify t = .error f) ∧ T.Unencodable t) := by
  induction T with
  | nil => exact .inl ⟨rfl, by simp [Unencodable]⟩
  | cons entry rest ih =>
    obtain ⟨k, u⟩ := entry
    cases hk : k.utf8? with
    | error f =>
      have hl : k.hasLone = true := Text.utf8?_eq_error_iff.1 ⟨f, hk⟩
      exact .inr ⟨⟨f, by simp [verify, hk, bind, Except.bind]⟩,
        unencodable_cons_of_hasLone hl u rest⟩
    | ok a =>
      have hkl : k.hasLone = false := by
        cases hl : k.hasLone
        · rfl
        · obtain ⟨f, hf⟩ := Text.utf8?_eq_error_iff.2 hl
          rw [hf] at hk
          cases hk
      cases ht : t.utf8? with
      | error f =>
        have htl : t.hasLone = true := Text.utf8?_eq_error_iff.1 ⟨f, ht⟩
        exact .inr ⟨⟨f, by simp [verify, hk, ht, bind, Except.bind]⟩,
          .inl ⟨List.cons_ne_nil _ _, htl⟩⟩
      | ok b =>
        have htl : t.hasLone = false := by
          cases hl : t.hasLone
          · rfl
          · obtain ⟨f, hf⟩ := Text.utf8?_eq_error_iff.2 hl
            rw [hf] at ht
            cases ht
        have hverify : verify ((k, u) :: rest) t = if k == t then .ok (some u) else verify rest t := by
          simp only [verify, hk, ht, bind, Except.bind, utf8?_beq hk ht]
          rfl
        by_cases hkt : k = t
        · -- the token's own entry: its user
          subst hkt
          exact .inl ⟨by simp [hverify, List.lookup], not_unencodable_cons_self htl u rest⟩
        · -- another key: the walk goes on, as the lookup does
          have hlookup : ((k, u) :: rest).lookup t = rest.lookup t := by
            have htk : (t == k) = false := by simpa using Ne.symm hkt
            simp [List.lookup, htk]
          rw [hverify, if_neg (by simpa using hkt), hlookup,
            unencodable_cons_iff hkl htl hkt u rest]
          exact ih

theorem verify_eq_error_iff (T : TokenTable) (t : Text) :
    (∃ f, T.verify t = .error f) ↔ T.Unencodable t := by
  rcases verify_cases T t with ⟨hv, hu⟩ | ⟨hv, hu⟩
  · rw [hv]
    simp [hu]
  · simp [hv, hu]

theorem verify_eq_ok {T : TokenTable} {t : Text} {x : Option Value} (h : T.verify t = .ok x) :
    x = T.lookup t := by
  rcases verify_cases T t with ⟨hv, -⟩ | ⟨⟨f, hv⟩, -⟩
  · rw [hv] at h
    exact (Except.ok.inj h).symm
  · rw [hv] at h
    cases h

end TokenTable

namespace Http

namespace Rest

/-- Characters split at their first space: the space is there when something follows it. -/
theorem eq_takeWhile_space {l : List Char}
    (h : (l.drop (l.takeWhile (· != ' ')).length).drop 1 ≠ []) :
    l = l.takeWhile (· != ' ') ++ ' ' :: (l.drop (l.takeWhile (· != ' ')).length).drop 1 := by
  have hd : l.drop (l.takeWhile (· != ' ')).length = l.dropWhile (· != ' ') := by
    have := @List.drop_left Char (l.takeWhile (· != ' ')) (l.dropWhile (· != ' '))
    rwa [List.takeWhile_append_dropWhile] at this
  rw [hd] at h ⊢
  cases hx : l.dropWhile (· != ' ') with
  | nil => rw [hx] at h; simp at h
  | cons c d =>
    have hc : c = ' ' := by
      have := List.head_dropWhile_not (· != ' ') (l := l) (by simp [hx])
      simpa [hx] using this
    subst hc
    conv_lhs => rw [← List.takeWhile_append_dropWhile (p := (· != ' ')) (l := l), hx]
    rfl

theorem toList_space : " ".toList = [' '] := by decide

theorem takeWhile_space {s rest : List Char} (hs : ' ' ∉ s) :
    (s ++ ' ' :: rest).takeWhile (· != ' ') = s := by
  have hall : ∀ a ∈ s, (a != ' ') = true := by
    intro a ha
    simp only [bne_iff_ne, ne_eq]
    rintro rfl
    exact hs ha
  rw [List.takeWhile_append_of_pos hall]
  simp

/-- **The credentials of a request are what follows the first space of its `Authorization`
header**, when what precedes it is `bearer` in any case and something follows. -/
theorem bearer?_eq_some_iff {r : Request} {token : String} :
    bearer? r = some token ↔ ∃ scheme, r.header? "authorization" = some (scheme ++ " " ++ token) ∧
      ' ' ∉ scheme.toList ∧ scheme.toLower = "bearer" ∧ token ≠ "" := by
  unfold bearer?
  constructor
  · intro h
    split at h
    · cases h
    · rename_i v hv
      dsimp only at h
      split at h
      · cases h
      · rename_i hc
        simp only [Bool.or_eq_true, List.isEmpty_iff, bne_iff_ne, ne_eq, not_or,
          Decidable.not_not] at hc
        obtain ⟨⟨-, hrest⟩, hlow⟩ := hc
        cases h
        refine ⟨String.ofList (v.toList.takeWhile (· != ' ')), ?_, ?_, hlow, ?_⟩
        · rw [hv]
          refine congrArg some (String.toList_inj.mp ?_)
          simp only [String.toList_append, String.toList_ofList, toList_space, List.append_assoc,
            List.singleton_append]
          exact eq_takeWhile_space hrest
        · intro hmem
          rw [String.toList_ofList] at hmem
          have hall := List.all_takeWhile (p := (· != ' ')) (l := v.toList)
          rw [List.all_eq_true] at hall
          simpa using hall ' ' hmem
        · intro htok
          apply hrest
          simpa using congrArg String.toList htok
  · rintro ⟨scheme, hv, hs, hlow, htok⟩
    have hscheme : scheme.toList ≠ [] := by
      intro he
      rw [String.toList_eq_nil_iff] at he
      subst he
      exact absurd hlow (by decide +kernel)
    have hl : (scheme ++ " " ++ token).toList = scheme.toList ++ ' ' :: token.toList := by
      simp [String.toList_append, toList_space]
    rw [hv]
    dsimp only
    rw [hl, takeWhile_space hs, List.drop_left, String.ofList_toList, hlow]
    simp [hscheme, htok]

/-- **A request is accepted exactly when it carries credentials that the table knows**, and no
key before theirs holds text without a UTF-8 form; it acts for the user of the first entry. -/
theorem authorize_eq_ok_iff (T : TokenTable) (r : Request) (u : Value) :
    authorize T r = .ok u ↔ ∃ token, bearer? r = some token ∧
      ¬ T.Unencodable (Text.ofString token) ∧ T.lookup (Text.ofString token) = some u := by
  unfold authorize
  cases hb : bearer? r with
  | none => simp
  | some token =>
    simp only [Option.some.injEq, exists_eq_left']
    rcases TokenTable.verify_cases T (Text.ofString token) with ⟨hv, hu⟩ | ⟨⟨f, hv⟩, hu⟩
    · rw [hv]
      cases T.lookup (Text.ofString token) <;> simp [hu]
    · rw [hv]
      simp [hu]

/-- **Bearer tokens are looked up.** The verifier faults exactly when its walk meets text with no
UTF-8 form, and otherwise answers the lookup of the token. A request is accepted, for the user of
the token's entry, exactly when its `Authorization` header is a scheme without spaces that is
`bearer` in any case, a space, and a credential that is not empty, is a key of the table, and
comes after no key without a UTF-8 form. -/
theorem bearer_tokens_looked_up (T : TokenTable) (t : Text) (r : Request) (u : Value) :
    ((∃ f, T.verify t = .error f) ↔ T.Unencodable t) ∧
      (∀ x, T.verify t = .ok x → x = T.lookup t) ∧
      (authorize T r = .ok u ↔ ∃ scheme token,
        r.header? "authorization" = some (scheme ++ " " ++ token) ∧ ' ' ∉ scheme.toList ∧
          scheme.toLower = "bearer" ∧ token ≠ "" ∧ ¬ T.Unencodable (Text.ofString token) ∧
          T.lookup (Text.ofString token) = some u) := by
  refine ⟨TokenTable.verify_eq_error_iff T t, fun x => TokenTable.verify_eq_ok, ?_⟩
  rw [authorize_eq_ok_iff]
  constructor
  · rintro ⟨token, hb, hu, hl⟩
    obtain ⟨scheme, hv, hs, hlow, htok⟩ := bearer?_eq_some_iff.1 hb
    exact ⟨scheme, token, hv, hs, hlow, htok, hu, hl⟩
  · rintro ⟨scheme, token, hv, hs, hlow, htok, hu, hl⟩
    exact ⟨token, bearer?_eq_some_iff.2 ⟨scheme, hv, hs, hlow, htok⟩, hu, hl⟩

/-- A token holding a lone surrogate is no key of a table, yet the verifier faults on it instead
of answering none; and a request whose credential is empty is refused even by a table whose key
is the empty text. -/
theorem surrogate_faults_empty_credential_refused :
    (∃ f, TokenTable.verify [(Text.ofString "s3cr3t", Value.ofString "admin")]
      ⟨[.lone ⟨0xD800, by decide, by decide⟩]⟩ = .error f) ∧
    ∃ resp, authorize [(Text.ofString "", Value.ofString "admin")]
      ⟨"GET", "/api/v1/recipes", "", [("authorization", "Bearer ")], []⟩ = .error resp := by
  refine ⟨(TokenTable.verify_eq_error_iff _ _).2 (.inl ⟨by simp, by decide⟩), _, rfl⟩

end Rest

end Http

end RecipeCatalog

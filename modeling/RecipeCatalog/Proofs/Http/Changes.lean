import Mathlib
import RecipeCatalog.Proofs.Catalog.Answers
import RecipeCatalog.Proofs.Version.Tokens

/-!
# What a request changes

A request may change two things a client can observe: the recipes, the table of the database,
and the files, the upload directory (`Store.contents`). The answer tells which change was made.
Outside GraphQL a `201 Created` is a creation, with the new recipe's id at the end of its
`Location`; a `204 No Content` is an update of the recipe the path names to the version its
entity tag carries, a deletion of that recipe, or the replacement of its file; every other answer
leaves both as they were. A GraphQL request changes the recipes by the creations, updates and
deletions its mutations make, and never the files. Nothing changes for a caller who does not
send a bearer token of the token table.

The GraphQL executor runs the fields of a mutation one after another and keeps what each did:
a field that fails later makes the answer an error, with no data, but does not undo the
fields before it.

* `Http.App.Effects` and `Http.App.handle_effects` — **on a reachable store, the answer to every
  request tells what it did to the recipes and the files, as above.**
* `Graph.error_keeps_deletion` — a mutation that deletes a recipe and then fails answers an
  error, and the recipe stays deleted.
-/

set_option autoImplicit false

namespace RecipeCatalog

theorem Fields.get?_set_self (fs : Fields) (key : Text) (v : Value) :
    (fs.set key v).get? key = some v := by
  unfold Fields.set Fields.get?
  split
  · rename_i h
    have hpred : ((fun p : Text × Value => p.1 == key) ∘
        fun p => if p.1 == key then (key, v) else p) = fun p => p.1 == key := by
      funext p
      by_cases hk : p.1 = key <;> simp [hk]
    rw [List.find?_map, hpred]
    obtain ⟨q, hq⟩ := Option.isSome_iff_exists.1 (List.find?_isSome.2 (List.any_eq_true.1 h))
    have hqk : q.1 = key := by simpa using List.find?_some hq
    simp [hq, hqk]
  · rename_i h
    rw [List.find?_append, List.find?_eq_none.2 fun p hp hk => h (List.any_eq_true.2 ⟨p, hp, hk⟩)]
    simp

namespace Store

variable {s s' : Store}

/-- What a request may change: the recipes and the files. -/
def contents (s : Store) : List Recipe × List (String × StoredFile) := (s.recipes, s.files)

/-- A creation that fails keeps the recipes and the files, whether or not it drew an id. -/
theorem contents_of_create_error {c : Fields} {f : Failure}
    (h : s.create c = .ok (.error f, s')) : s'.contents = s.contents := by
  rcases create_eq_ok_error h with rfl | rfl <;> rfl

/-- Deleting by a plain id keeps every recipe with another id, and answers whether one had it. -/
theorem delete_ofString (x : String) :
    s.delete (Text.ofString x) =
      .ok ((s.get? x).isSome, { s with recipes := s.recipes.filter (·.id != x) }) := by
  unfold delete
  rw [lookup_ofString]
  cases hg : s.get? x with
  | none =>
    have hall : ∀ r ∈ s.recipes, (r.id != x) = true := fun r hr => by
      have := List.find?_eq_none.1 hg r hr
      simpa using this
    simp [bind, Except.bind, pure, Except.pure, List.filter_eq_self.2 hall]
  | some r =>
    rw [← (mem_of_get? hg).2]
    rfl

/-- Keeping a file under a plain id: without a recipe with the id, nothing; with one, the files
of its directory replaced by the new one and the rest kept. -/
theorem saveFile_ofString (x : String) (content : List UInt8) (media : Option Text) :
    s.saveFile (Text.ofString x) content media =
      if (s.get? x).isSome then
        .ok (true, { s with
          files := (directory x, ⟨extensionFor media, content⟩) ::
            s.files.filter (·.1 != directory x) })
      else .ok (false, s) := by
  unfold saveFile
  rw [lookup_ofString]
  cases hg : s.get? x with
  | none => rfl
  | some r =>
    rw [← (mem_of_get? hg).2]
    rfl

theorem files_perform {c : Call} (hc : c.Writes) : (s.perform c).files = s.files := by
  cases c with
  | create c =>
    rcases h : s.create c with e | ⟨_ | i, s'⟩
    · simp [perform, after, h]
    · rcases create_eq_ok_error h with rfl | rfl <;> simp [perform, after, h]
    · rw [perform, after_eq h, (create_eq_ok_ok h).2.2.2.2]
  | update c t =>
    rcases h : s.update c t with e | ⟨_ | n, s'⟩
    · simp [perform, after, h]
    · rw [perform, after_eq h, update_eq_ok_error h]
    · obtain ⟨_, _, _, _, -, -, -, -, -, -, -, -, hs'⟩ := update_eq_ok_ok h
      rw [perform, after_eq h, hs']
  | delete x =>
    rcases h : s.delete x with e | ⟨b, s'⟩
    · simp [perform, after, h]
    · rcases delete_eq_ok h with rfl | ⟨r, -, rfl⟩ <;> rw [perform, after_eq h]
  | _ => exact absurd hc id

theorem files_run {cs : List Call} (hcs : ∀ c ∈ cs, c.Writes) : (s.run cs).files = s.files := by
  induction cs generalizing s with
  | nil => rfl
  | cons c cs ih =>
    show (Store.run (s.perform c) cs).files = s.files
    rw [ih fun d hd => hcs d (List.mem_cons_of_mem c hd), files_perform (hcs c List.mem_cons_self)]

end Store

namespace Http

/-! ## Answers and callers -/

/-- A request carries a bearer token of the token table `T`. -/
def Known (T : TokenTable) (r : Request) : Prop :=
  ∃ token user, Rest.bearer? r = some token ∧ T.verify (Text.ofString token) = .ok (some user)

/-- An answer that is neither `201 Created` nor `204 No Content`. -/
def Response.Ordinary (resp : Response) : Prop := resp.status ≠ 201 ∧ resp.status ≠ 204

namespace Response

theorem plain_ordinary {st : Nat} (h1 : st ≠ 201) (h2 : st ≠ 204) (text : String) :
    (plain st text).Ordinary := ⟨h1, h2⟩

theorem empty_ordinary {st : Nat} (h1 : st ≠ 201) (h2 : st ≠ 204)
    (headers : List (String × String)) : (empty st headers).Ordinary := ⟨h1, h2⟩

theorem serverError_ordinary : serverError.Ordinary := plain_ordinary (by decide) (by decide) _

/-- A JSON answer has its status or, when the value has no JSON text, `500`. -/
theorem json_ordinary {st : Nat} (h1 : st ≠ 201) (h2 : st ≠ 204) (v : Value)
    (headers : List (String × String)) : (json st v headers).Ordinary := by
  unfold json
  split
  · exact ⟨h1, h2⟩
  · exact serverError_ordinary

theorem detail_ordinary {st : Nat} (h1 : st ≠ 201) (h2 : st ≠ 204) (m : String)
    (headers : List (String × String)) : (detail st m headers).Ordinary :=
  json_ordinary h1 h2 _ _

end Response

/-- An answer that is neither `201` nor `204`, with the recipes and the files as they were. -/
def Quiet (s : Store) (out : Response × Store) : Prop :=
  out.1.Ordinary ∧ out.2.contents = s.contents

theorem Quiet.of_ordinary {s : Store} {resp : Response} (h : resp.Ordinary) : Quiet s (resp, s) :=
  ⟨h, rfl⟩

/-! ## What the handlers do -/

/-- A recipe added: one recipe appended under an id no recipe had, which ends the `Location` of
the answer; the files kept. -/
def Added (s : Store) (r : Request) (resp : Response) (s' : Store) : Prop :=
  ∃ rec : Recipe, rec.id ∉ s.recipes.map (·.id) ∧ s'.recipes = s.recipes ++ [rec] ∧
    s'.files = s.files ∧ resp.headers = [("location", Rest.collection r ++ "/" ++ rec.id)]

/-- The recipe with id `x` updated to the version the entity tag of the answer carries: a
successful update of `x`, which replaces that recipe alone, keeping its id and reference code,
and keeps the files. -/
def Replaced (s : Store) (x : String) (resp : Response) (s' : Store) : Prop :=
  ∃ v, resp.headers = [("etag", Rest.etag v)] ∧
    ∃ c t, s.update c t = .ok (.ok v, s') ∧ Recipe.string? c .id = some x ∧
      ∃ old ∈ s.recipes, old.id = x ∧ v = old.version + 1 ∧
        s'.recipes = s.recipes.map
          (fun y => if y.id == x then old.overwrite (Recipe.ofChecked c x 0) else y) ∧
        s'.files = s.files

/-- The recipe with id `x` removed, if there is one, and nothing else. -/
def Removed (s : Store) (x : String) (s' : Store) : Prop :=
  s'.recipes = s.recipes.filter (·.id != x) ∧ s'.files = s.files

/-- The files of the directory of the recipe with id `x` replaced by the body of the request, and
nothing else. -/
def Attached (s : Store) (x : String) (r : Request) (s' : Store) : Prop :=
  x ∈ s.recipes.map (·.id) ∧ s'.recipes = s.recipes ∧
    ∃ f : StoredFile, f.content = r.body ∧
      s'.files = (Store.directory x, f) :: s.files.filter (·.1 != Store.directory x)

namespace Rest

variable (T : TokenTable) (s : Store) (r : Request)

theorem known_of_authorize {user : Value} (h : authorize T r = .ok user) : Known T r := by
  unfold authorize at h
  split at h
  · cases h
  · rename_i token hb
    split at h
    · exact ⟨token, _, hb, ‹_›⟩
    · cases h
    · cases h

variable {T s r}

/-- A caller refused is answered `401`, or `500` when the token cannot be checked. -/
theorem ordinary_of_authorize {resp : Response} (h : authorize T r = .error resp) :
    resp.Ordinary := by
  unfold authorize at h
  split at h
  · cases h
    exact Response.detail_ordinary (by decide) (by decide) _ _
  · split at h
    · cases h
    · cases h
      exact Response.detail_ordinary (by decide) (by decide) _ _
    · cases h
      exact Response.serverError_ordinary

/-- A body that is no candidate is answered `400`, or `500` for a number too long to read. -/
theorem ordinary_of_candidate {resp : Response} (h : candidate r = .error resp) :
    resp.Ordinary := by
  unfold candidate at h
  split at h
  · cases h
  all_goals cases h
  · exact Response.detail_ordinary (by decide) (by decide) _ _
  · exact Response.detail_ordinary (by decide) (by decide) _ _
  · exact Response.serverError_ordinary

/-- A failure of a creation or an update is answered `400`, `412` or `404` (or `500`). -/
theorem failure_ordinary (f : Failure) : (failure f).Ordinary := by
  cases f <;> first
    | exact Response.json_ordinary (by decide) (by decide) _ _
    | exact Response.plain_ordinary (by decide) (by decide) _

variable (s r)

theorem list_ordinary : (list s r).Ordinary := by
  unfold list
  split
  · exact Response.serverError_ordinary
  · exact Response.plain_ordinary (by decide) (by decide) _
  · exact Response.json_ordinary (by decide) (by decide) _ _

theorem fetch_ordinary (x : String) : (fetch s r x).Ordinary := by
  unfold fetch
  split
  · exact Response.serverError_ordinary
  · exact Response.detail_ordinary (by decide) (by decide) _ _
  · dsimp only
    split
    · exact ⟨by decide, by decide⟩
    · exact Response.json_ordinary (by decide) (by decide) _ _

theorem download_ordinary (x : String) : (download s x).Ordinary := by
  unfold download
  split
  · exact Response.serverError_ordinary
  · exact Response.detail_ordinary (by decide) (by decide) _ _
  · exact Response.detail_ordinary (by decide) (by decide) _ _
  · exact ⟨by simp, by simp⟩

theorem health_ordinary : health.Ordinary := Response.json_ordinary (by decide) (by decide) _ _

theorem string?_set_id (c : Fields) (x : String) :
    Recipe.string? (c.set (Text.ofString "id") (.ofString x)) .id = some x :=
  Store.string?_of_given? (by
    simp [Recipe.given?, Fields.lookup, Field.wireName, Fields.get?_set_self, Value.ofString])

variable {s}

/-- **A creation answers `201` for a known caller, having added one recipe under a fresh id;
any other answer keeps the recipes and the files.** -/
theorem create_effect (hv : s.Valid) : Quiet s (create T s r) ∨
    ((create T s r).1.status = 201 ∧ Known T r ∧ Added s r (create T s r).1 (create T s r).2) := by
  unfold create
  split
  · exact .inl (Quiet.of_ordinary (ordinary_of_authorize ‹_›))
  rename_i user hauth
  split
  · exact .inl (Quiet.of_ordinary (Response.detail_ordinary (by decide) (by decide) _ _))
  split
  · exact .inl (Quiet.of_ordinary (ordinary_of_candidate ‹_›))
  rename_i c _
  rcases h : s.create c with e | ⟨_ | i, s'⟩
  · exact .inl (Quiet.of_ordinary Response.serverError_ordinary)
  · exact .inl ⟨failure_ordinary _, Store.contents_of_create_error h⟩
  · obtain ⟨-, -, -, rfl, rfl⟩ := Store.create_eq_ok_ok h
    have hfresh : (s.created c).id ∉ s.recipes.map (·.id) := fun hm => by
      obtain ⟨o, ho, he⟩ := List.mem_map.1 hm
      exact Store.not_issued_next s (by simpa [he] using hv.issued o ho)
    exact .inr ⟨rfl, known_of_authorize T r hauth, s.created c, hfresh, rfl, rfl, rfl⟩

/-- **An update answers `204` for a known caller, having updated the recipe the path names to
the version of its entity tag; any other answer keeps the recipes and the files.** The id in the
path takes the place of any id in the body. -/
theorem replace_effect (x : String) : Quiet s (replace T s r x) ∨
    ((replace T s r x).1.status = 204 ∧ Known T r ∧
      Replaced s x (replace T s r x).1 (replace T s r x).2) := by
  unfold replace
  split
  · exact .inl (Quiet.of_ordinary (ordinary_of_authorize ‹_›))
  rename_i user hauth
  split
  · exact .inl (Quiet.of_ordinary (Response.detail_ordinary (by decide) (by decide) _ _))
  split
  · exact .inl (Quiet.of_ordinary (Response.plain_ordinary (by decide) (by decide) _))
  split
  · exact .inl (Quiet.of_ordinary (Response.plain_ordinary (by decide) (by decide) _))
  split
  · exact .inl (Quiet.of_ordinary (ordinary_of_candidate ‹_›))
  rename_i c _
  dsimp only
  generalize hc : c.set (Text.ofString "id") (.ofString x) = c'
  generalize some (Text.ofString _) = token
  rcases h : s.update c' token with e | ⟨_ | v, s'⟩
  · exact .inl (Quiet.of_ordinary Response.serverError_ordinary)
  · exact .inl ⟨failure_ordinary _, by rw [Store.update_eq_ok_error h]⟩
  · obtain ⟨-, -, key, old, -, -, -, hkey, hold, -, -, hv, hs'⟩ := Store.update_eq_ok_ok h
    obtain rfl : key = x := by
      rw [← hc, string?_set_id] at hkey
      exact (Option.some.inj hkey).symm
    obtain ⟨hmem, hid⟩ := Store.mem_of_get? hold
    exact .inr ⟨rfl, known_of_authorize T r hauth, v, rfl, c', token, h, hkey, old, hmem, hid, hv,
      by rw [hs'], by rw [hs']⟩

theorem etag_length (v : Nat) : ¬ (etag v).length < 3 := by
  have hq : "\"".length = 1 := rfl
  have hv : v.repr.length ≠ 0 := by simp [Nat.repr]
  simp [etag]
  omega

/-- **A replacement sent back with the entity tag of a version hands the update a token that
reads as that version, and answers `204` exactly when that update succeeds**: the tag a fetch
answered names the read that a write is based on. -/
theorem replace_of_etag (x : String) {v : Nat} {user : Value} {c : Fields}
    (hv : (toString v).length ≤ 4300) (hauth : authorize T r = .ok user)
    (hmedia : mediaType r = jsonType) (hm : r.header? "if-match" = some (etag v))
    (hc : candidate r = .ok c) :
    ∃ t, Version.read t = .ok (some v) ∧
      ((replace T s r x).1.status = 204 ↔
        ∃ n s', s.update (c.set (Text.ofString "id") (.ofString x)) (some t) = .ok (.ok n, s')) := by
  refine ⟨_, Version.read_etag v hv, ?_⟩
  unfold replace
  rw [hauth]
  dsimp only
  rw [hmedia, bne_self_eq_false, hm]
  dsimp only
  rw [if_neg Bool.false_ne_true, if_neg (etag_length v), hc]
  dsimp only
  rcases h : s.update (c.set (Text.ofString "id") (.ofString x))
    (some (Text.ofString (String.ofList (((etag v).toList.drop 1).dropLast)))) with e | ⟨_ | n, s'⟩
  · exact ⟨fun hs => absurd hs Response.serverError_ordinary.2, fun ⟨_, _, he⟩ => by cases he⟩
  · exact ⟨fun hs => absurd hs (failure_ordinary _).2, fun ⟨_, _, he⟩ => by cases he⟩
  · exact ⟨fun _ => ⟨n, s', rfl⟩, fun _ => rfl⟩

/-- **A deletion answers `204` for a known caller, having removed the recipe the path names if
there is one; any other answer keeps the recipes and the files.** -/
theorem remove_effect (x : String) : Quiet s (remove T s r x) ∨
    ((remove T s r x).1.status = 204 ∧ Known T r ∧ Removed s x (remove T s r x).2) := by
  unfold remove
  split
  · exact .inl (Quiet.of_ordinary (ordinary_of_authorize ‹_›))
  rename_i user hauth
  rw [Store.delete_ofString]
  exact .inr ⟨rfl, known_of_authorize T r hauth, rfl, rfl⟩

/-- **Keeping a file answers `204` for a known caller, having replaced the file of the recipe the
path names by the body; any other answer keeps the recipes and the files.** -/
theorem upload_effect (x : String) : Quiet s (upload T s r x) ∨
    ((upload T s r x).1.status = 204 ∧ Known T r ∧ Attached s x r (upload T s r x).2) := by
  unfold upload
  split
  · exact .inl (Quiet.of_ordinary (ordinary_of_authorize ‹_›))
  rename_i user hauth
  dsimp only
  split
  · exact .inl (Quiet.of_ordinary (Response.detail_ordinary (by decide) (by decide) _ _))
  rw [Store.saveFile_ofString]
  by_cases hx : (s.get? x).isSome
  · rw [if_pos hx]
    obtain ⟨rec, hrec⟩ := Option.isSome_iff_exists.1 hx
    obtain ⟨hmem, hid⟩ := Store.mem_of_get? hrec
    exact .inr ⟨rfl, known_of_authorize T r hauth, List.mem_map.2 ⟨rec, hmem, hid⟩, rfl, _, rfl, rfl⟩
  · rw [if_neg hx]
    exact .inl (Quiet.of_ordinary (Response.detail_ordinary (by decide) (by decide) _ _))

end Rest

/-! ## What a request does -/

theorem known_of_authenticated {T : TokenTable} {r : Request}
    (h : Graph.authenticated T r = .ok true) : Known T r := by
  unfold Graph.authenticated at h
  split at h
  · cases h
  · rename_i token hb
    split at h
    · exact ⟨token, _, hb, ‹_›⟩
    · cases h
    · cases h

namespace App

/-- What the answer to a request outside GraphQL tells: nothing changed and the answer is
neither `201` nor `204`; or a creation answered `201`; or an update, a deletion or a file kept,
answered `204`. -/
def RestEffect (T : TokenTable) (s : Store) (r : Request) (out : Response × Store) : Prop :=
  Quiet s out ∨
  (out.1.status = 201 ∧ Address.ofPath? r.path = some .recipes ∧ r.method = "POST" ∧ Known T r ∧
    Added s r out.1 out.2) ∨
  (out.1.status = 204 ∧ Known T r ∧ ∃ x,
    (Address.ofPath? r.path = some (.recipe x) ∧ r.method = "PUT" ∧ Replaced s x out.1 out.2) ∨
    (Address.ofPath? r.path = some (.recipe x) ∧ r.method = "DELETE" ∧ Removed s x out.2) ∨
    (Address.ofPath? r.path = some (.recipeFile x) ∧ r.method = "PUT" ∧ Attached s x r out.2))

variable {T : TokenTable} {s : Store} {r : Request}

/-- A route of the REST interface, served, answers as `RestEffect` says. -/
theorem serve_rest (hv : s.Valid) {t : Address} (hp : Address.ofPath? r.path = some t)
    (ht : t ≠ .graphql) (hroute : routes.contains (t.place, r.method) = true) :
    RestEffect T s r (serve T s r t) := by
  cases t with
  | health => exact .inl (Quiet.of_ordinary Rest.health_ordinary)
  | recipes =>
    simp only [serve]
    split
    · exact .inl (Quiet.of_ordinary (Rest.list_ordinary s r))
    · rename_i hget
      have hpost : r.method = "POST" := by
        simp [routes, Address.place] at hroute
        simp_all
      rcases Rest.create_effect r hv with hq | ⟨h201, hk, hadd⟩
      · exact .inl hq
      · exact .inr (.inl ⟨h201, hp, hpost, hk, hadd⟩)
  | recipe x =>
    simp only [serve]
    split
    · exact .inl (Quiet.of_ordinary (Rest.fetch_ordinary s r x))
    split
    · rename_i hput
      rcases Rest.replace_effect r x with hq | ⟨h204, hk, hrep⟩
      · exact .inl hq
      · exact .inr (.inr ⟨h204, hk, x, .inl ⟨hp, by simpa using hput, hrep⟩⟩)
    · rename_i hget hput
      have hdel : r.method = "DELETE" := by
        simp [routes, Address.place] at hroute
        simp_all
      rcases Rest.remove_effect r x with hq | ⟨h204, hk, hrem⟩
      · exact .inl hq
      · exact .inr (.inr ⟨h204, hk, x, .inr (.inl ⟨hp, hdel, hrem⟩)⟩)
  | recipeFile x =>
    simp only [serve]
    split
    · rename_i hput
      rcases Rest.upload_effect r x with hq | ⟨h204, hk, hatt⟩
      · exact .inl hq
      · exact .inr (.inr ⟨h204, hk, x, .inr (.inr ⟨hp, by simpa using hput, hatt⟩)⟩)
    · exact .inl (Quiet.of_ordinary (Rest.download_ordinary s x))
  | graphql => exact absurd rfl ht

/-- Outside GraphQL a request answers as `RestEffect` says: a path no route serves, or a method
its route does not, is answered `404`, `405` or `307` with nothing changed. -/
theorem handle_rest (hv : s.Valid) (hg : Address.ofPath? r.path ≠ some .graphql) :
    RestEffect T s r (handle T s r) := by
  unfold handle
  cases hp : Address.ofPath? r.path with
  | some t =>
    dsimp only
    split
    · exact serve_rest hv hp (fun h => hg (h ▸ hp)) ‹_›
    · exact .inl (Quiet.of_ordinary (Response.detail_ordinary (by decide) (by decide) _ _))
  | none =>
    dsimp only
    split
    · exact .inl (Quiet.of_ordinary (Response.empty_ordinary (by decide) (by decide) _))
    · exact .inl (Quiet.of_ordinary (Response.detail_ordinary (by decide) (by decide) _ _))

/-- At the GraphQL path a request keeps the store or makes, in order, the calls of a prefix of
the root fields of the operation it runs, of all of them when the data is not `null`. -/
theorem handle_graphql (hg : Address.ofPath? r.path = some .graphql) :
    (handle T s r).2 = s ∨ ∃ st o k, Graph.Runs T r st o ∧
      (handle T s r).2 = s.run ((st.planned o).take k) ∧
      (((Graph.Runner.operation st o).run ⟨s, #[]⟩).1.isSome → k = (st.planned o).length) := by
  unfold handle
  rw [hg]
  dsimp only
  split
  · exact Graph.serve_calls T s r
  · exact .inl rfl

theorem known_of_runs {st : Graph.Setting} {o : Graph.Operation} (h : Graph.Runs T r st o)
    (hne : st.planned o ≠ []) : Known T r := by
  obtain ⟨c, hc⟩ := List.exists_mem_of_ne_nil _ hne
  obtain ⟨q, hauth, -⟩ := h
  rw [(Graph.Setting.mem_planned hc).2.1] at hauth
  exact known_of_authenticated hauth

/-- How the answer to a request tells what it did to the recipes and the files, for a service
with the token table `T`. -/
structure Effects (T : TokenTable) (s : Store) (r : Request) (resp : Response) (s' : Store) :
    Prop where
  /-- outside GraphQL, a `201` answers a creation by a known caller: one recipe added under a
  fresh id, which ends the `Location` -/
  created : Address.ofPath? r.path ≠ some .graphql → resp.status = 201 →
    Address.ofPath? r.path = some .recipes ∧ r.method = "POST" ∧ Known T r ∧ Added s r resp s'
  /-- outside GraphQL, a `204` answers, for a known caller, the update of the recipe the path
  names to the version of the entity tag, its deletion, or the replacement of its file -/
  written : Address.ofPath? r.path ≠ some .graphql → resp.status = 204 → Known T r ∧ ∃ x,
    (Address.ofPath? r.path = some (.recipe x) ∧ r.method = "PUT" ∧ Replaced s x resp s') ∨
    (Address.ofPath? r.path = some (.recipe x) ∧ r.method = "DELETE" ∧ Removed s x s') ∨
    (Address.ofPath? r.path = some (.recipeFile x) ∧ r.method = "PUT" ∧ Attached s x r s')
  /-- every other answer outside GraphQL leaves the recipes and the files as they were -/
  kept : Address.ofPath? r.path ≠ some .graphql → resp.status ≠ 201 → resp.status ≠ 204 →
    s'.contents = s.contents
  /-- a GraphQL request keeps the store, or makes, in order, the creations, updates and
  deletions of a prefix of the root fields of the operation it runs, of all of them when its
  data is not `null`; a query makes none, and only a known caller makes any; the files never
  change -/
  graphql : Address.ofPath? r.path = some .graphql →
    s' = s ∨ ∃ st o k, Graph.Runs T r st o ∧ s' = s.run ((st.planned o).take k) ∧
      (((Graph.Runner.operation st o).run ⟨s, #[]⟩).1.isSome → k = (st.planned o).length) ∧
      (o.kind ≠ .mutation → s' = s) ∧ (st.planned o ≠ [] → Known T r) ∧ s'.files = s.files
  /-- without a bearer token of the table nothing changes -/
  unknown : ¬ Known T r → s'.contents = s.contents

/-- **On a reachable store, the answer to every request tells what it did to the recipes and
the files**: outside GraphQL a `201` is a creation, a `204` an update, a deletion or a file
kept, each for a known caller, and every other answer changes nothing; a GraphQL request makes
the creations, updates and deletions of its mutation fields, in order, up to the first whose
failure makes the data `null`, and a query changes nothing; and a request without a bearer
token of the table changes nothing. -/
theorem handle_effects (T : TokenTable) (hS : s.Reachable) (r : Request) :
    Effects T s r (handle T s r).1 (handle T s r).2 := by
  by_cases hg : Address.ofPath? r.path = some .graphql
  · -- the store after the request, if it changed
    have hgraph : (handle T s r).2 = s ∨ ∃ st o k, Graph.Runs T r st o ∧
        (handle T s r).2 = s.run ((st.planned o).take k) ∧
        (((Graph.Runner.operation st o).run ⟨s, #[]⟩).1.isSome → k = (st.planned o).length) ∧
        (o.kind ≠ .mutation → (handle T s r).2 = s) ∧ (st.planned o ≠ [] → Known T r) ∧
        (handle T s r).2.files = s.files := by
      rcases handle_graphql (T := T) (s := s) hg with h | ⟨st, o, k, hruns, h, hall⟩
      · exact .inl h
      refine .inr ⟨st, o, k, hruns, h, hall, fun hk => ?_, known_of_runs hruns, ?_⟩
      · rw [h, Graph.Setting.planned_of_ne_mutation st hk, List.take_nil]
        rfl
      · rw [h, Store.files_run fun c hc => (Graph.Setting.mem_planned (List.mem_of_mem_take hc)).2.2]
    refine ⟨fun h => absurd hg h, fun h => absurd hg h, fun h => absurd hg h, fun _ => hgraph,
      fun hk => ?_⟩
    rcases hgraph with h | ⟨st, o, k, hruns, h, -, -, hknown, -⟩
    · rw [h]
    · -- a caller who is not known makes no call
      have hnil : st.planned o = [] := by
        by_contra hne
        exact hk (hknown hne)
      rw [h, hnil, List.take_nil]
      rfl
  · rcases handle_rest hS.valid hg with ⟨⟨h201, h204⟩, hq⟩ | ⟨h201, hpath, hpost, hk, hadd⟩ |
      ⟨h204, hk, x, hw⟩
    · exact ⟨fun _ h => absurd h h201, fun _ h => absurd h h204, fun _ _ _ => hq,
        fun h => absurd h hg, fun _ => hq⟩
    · refine ⟨fun _ _ => ⟨hpath, hpost, hk, hadd⟩, fun _ h => absurd (h201.symm.trans h) (by decide),
        fun _ h => absurd h201 h, fun h => absurd h hg, fun hnk => absurd hk hnk⟩
    · refine ⟨fun _ h => absurd (h204.symm.trans h) (by decide), fun _ _ => ⟨hk, x, hw⟩,
        fun _ _ h => absurd h204 h, fun h => absurd h hg, fun hnk => absurd hk hnk⟩

/-- A table that knows one token. -/
def sampleTokens : TokenTable := [(Text.ofString "secret-token", Value.ofString "tester")]

/-- A deletion of the first seeded recipe, with a token the table knows. -/
def deleteFirst : Request :=
  ⟨"DELETE", "/api/v1/recipes/00000000-0000-0000-0000-000000000001", "",
    [("authorization", "Bearer secret-token")], []⟩

theorem seeded_handle_effects :
    Store.seeded.Reachable ∧
      Effects sampleTokens Store.seeded deleteFirst (handle sampleTokens Store.seeded deleteFirst).1
        (handle sampleTokens Store.seeded deleteFirst).2 :=
  ⟨Store.reachable_seeded, handle_effects sampleTokens Store.reachable_seeded deleteFirst⟩

end App

end Http

namespace Graph

/-- A mutation of two deletions: the first of the first seeded recipe, the second of an id given
by a variable that holds a lone surrogate. -/
def deleteThenFault : Request where
  document := some (Text.ofString
    "mutation($id: ID!) \x7b a: deleteRezept(id: \"00000000-0000-0000-0000-000000000001\") b: deleteRezept(id: $id) \x7d")
  variableValues := some [(Text.ofString "id", .str ⟨[.lone ⟨0xD800, by decide, by decide⟩]⟩)]
  operationName := none

/-- A mutation whose answer is an error with no data still keeps the effects of the fields that
ran before the error: the first recipe is gone. -/
theorem error_keeps_deletion :
    ∃ o s', deleteThenFault.run Store.seeded true false = .ok (o, s') ∧ o.data = none ∧
      o.errors ≠ [] ∧ (Store.seeded.get? "00000000-0000-0000-0000-000000000001").isSome ∧
      s'.get? "00000000-0000-0000-0000-000000000001" = none := by
  have hcheck : (match deleteThenFault.run Store.seeded true false with
      | .ok (o, s') => o.data.isNone && !o.errors.isEmpty &&
          (Store.seeded.get? "00000000-0000-0000-0000-000000000001").isSome &&
          (s'.get? "00000000-0000-0000-0000-000000000001").isNone
      | .error _ => false) = true := by
    decide +kernel
  split at hcheck
  · rename_i o s' hrun
    simp only [Bool.and_eq_true, Option.isNone_iff_eq_none, Bool.not_eq_true',
      List.isEmpty_eq_false_iff] at hcheck
    exact ⟨o, s', hrun, hcheck.1.1.1, hcheck.1.1.2, hcheck.1.2, hcheck.2⟩
  · cases hcheck

end Graph

end RecipeCatalog

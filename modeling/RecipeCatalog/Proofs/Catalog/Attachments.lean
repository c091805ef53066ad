import Mathlib
import RecipeCatalog.Proofs.Http.ReadBack
import RecipeCatalog.Proofs.Http.Changes
import RecipeCatalog.Proofs.Catalog.Search

/-!
# The file of a recipe

A recipe may carry one file, kept in a directory named after its id (`Store.directory`):
keeping a file for a recipe removes every file of that directory first, and finding a recipe's
file gives the one file of its directory. Two ids can name one directory (`a/b` and `a_b`), but
an id of the shape of a UUID names a directory of its own (`Store.directory_of_isUuid`), and every
id a store issues has that shape while fewer than `16^12` ids were drawn. So on a reachable
store the file of one recipe is never touched by a call about another.

* `Store.HasFile.run` — **a recipe and its file stay as they are along every run of calls that
  neither keeps a new file for the recipe nor deletes it** (`Call.Supersedes`), while the ids
  keep the shape of a UUID; each call keeps them (`Store.HasFile.perform`).
* `Store.findFile_ne_multipleFiles` — on a reachable store no directory holds two files, so
  finding a file never answers that there are several.
* `Store.file_found_until_superseded` — after a file is kept for a recipe of a reachable store,
  finding the recipe's file gives that file, with its bytes and the extension of its media
  type, until the file is superseded; for a plain id that no recipe has, keeping answers
  `false` and keeps the store, and finding answers that no recipe has the id; an id holding a
  lone surrogate faults.
* `Store.saveFile_faults_on_lone_surrogate` — such an id, which no recipe has, is not answered
  `false` but faults.
-/

set_option autoImplicit false

namespace RecipeCatalog

/-- Whether a call supersedes the file of the recipe with id `x`: it keeps a new file for the
recipe, or deletes the recipe. -/
def Call.Supersedes (x : String) : Call → Prop
  | .saveFile id _ _ | .delete id => id = Text.ofString x
  | _ => False

namespace Store

variable {s s' : Store}

/-! ## Directories -/

theorem dropWhile_underscore {l : List Char} (h : ∀ c ∈ l, c ≠ '_') :
    l.dropWhile (· == '_') = l := by
  cases l with
  | nil => rfl
  | cons c l => simp [h c List.mem_cons_self]

/-- An id of word characters and hyphens, with no `_`, of at most 80 characters, names the
directory of its own name. -/
theorem directory_eq_self {x : String} (hk : ∀ c ∈ x.toList, keptInDirectory c = true ∧ c ≠ '_')
    (hlen : x.length ≤ 80) (hne : x.toList ≠ []) : directory x = x := by
  have hmap : (x.toList.map fun c => if keptInDirectory c then c else '_') = x.toList :=
    (List.map_congr_left fun c hc => by simp [(hk c hc).1]).trans (List.map_id _)
  have htake : x.toList.take 80 = x.toList :=
    List.take_of_length_le (by rwa [String.length_toList])
  have hrev : ∀ c ∈ x.toList.reverse, c ≠ '_' := fun c hc => (hk c (List.mem_reverse.1 hc)).2
  unfold directory
  rw [hmap, htake]
  dsimp only
  rw [dropWhile_underscore fun c hc => (hk c hc).2, dropWhile_underscore hrev,
    List.reverse_reverse]
  simp [hne]

/-- A hexadecimal digit stays in a directory name, and is no `_`. -/
theorem keptInDirectory_of_hex {c : Char}
    (h : (c.isDigit || ('a' ≤ c && c ≤ 'f') || ('A' ≤ c && c ≤ 'F')) = true) :
    keptInDirectory c = true ∧ c ≠ '_' := by
  simp only [Bool.or_eq_true, Bool.and_eq_true, decide_eq_true_eq, Char.isDigit, Char.le_def,
    UInt32.le_iff_toNat_le, Char.toNat_val, Char.reduceToNat] at h
  refine ⟨?_, fun hu => ?_⟩
  · simp only [keptInDirectory, Char.isAlphanum, Char.isAlpha, Char.isUpper, Char.isLower,
      Char.isDigit, Bool.or_eq_true, Bool.and_eq_true, decide_eq_true_eq,
      UInt32.le_iff_toNat_le, Char.toNat_val, Char.reduceToNat]
    omega
  · subst hu
    revert h
    decide

/-- **An id of the shape of a UUID names the directory of its own name.** -/
theorem directory_of_isUuid {x : String} (h : Field.isUuid (Text.ofString x) = true) :
    directory x = x := by
  unfold Field.isUuid Text.ofString at h
  simp only [List.length_map, Bool.and_eq_true, beq_iff_eq, List.all_eq_true, List.mem_range]
    at h
  obtain ⟨hlen, hall⟩ := h
  refine directory_eq_self (fun c hc => ?_) (by simp [String.length, hlen]) ?_
  · -- each character is a hexadecimal digit or a hyphen
    obtain ⟨i, hi, rfl⟩ := List.getElem_of_mem hc
    have hci := hall i (hlen ▸ hi)
    rw [List.getD_eq_getElem _ _ (by simpa using hi), List.getElem_map] at hci
    split at hci
    · have : x.toList[i] = '-' := by simpa using hci
      simp [this, keptInDirectory]
    · exact keptInDirectory_of_hex hci
  · intro hnil
    simp [hnil] at hlen

/-- The files of a directory. -/
theorem filter_saveFile_of_ne {d e : String} (hde : d ≠ e) (f : StoredFile)
    (files : List (String × StoredFile)) :
    ((e, f) :: files.filter (·.1 != e)).filter (·.1 == d) = files.filter (·.1 == d) := by
  rw [List.filter_cons_of_neg (by simpa using Ne.symm hde), List.filter_filter]
  congr 1
  funext p
  by_cases hp : p.1 = d
  · simp [hp, hde]
  · simp [hp]

/-! ## Ids that fault -/

theorem lookup_eq_error_iff {id : Text} : (∃ e, s.lookup id = .error e) ↔ id.hasLone = true := by
  rw [← Text.utf8?_eq_error_iff]
  unfold lookup
  cases id.utf8? with
  | error e => simp [bind, Except.bind]
  | ok key => simp [bind, Except.bind, pure, Except.pure]

theorem saveFile_eq_error {id : Text} (h : id.hasLone = true) (b : List UInt8) (m : Option Text) :
    ∃ e, s.saveFile id b m = .error e := by
  obtain ⟨e, he⟩ := lookup_eq_error_iff.2 h
  exact ⟨e, by unfold saveFile; rw [he]; rfl⟩

theorem findFile_eq_error {id : Text} (h : id.hasLone = true) : ∃ e, s.findFile id = .error e := by
  obtain ⟨e, he⟩ := lookup_eq_error_iff.2 h
  exact ⟨e, by unfold findFile; rw [he]; rfl⟩

/-! ## Finding the file of a recipe -/

/-- Finding the file of a plain id: that no recipe has the id, that its directory holds no
file, the one file it holds, or that it holds several. -/
theorem findFile_ofString (x : String) :
    s.findFile (Text.ofString x) =
      .ok (match s.get? x, s.files.filter (·.1 == directory x) with
        | none, _ => .error (.recipeNotExists (some (Text.ofString x)))
        | some _, [] => .error (.fileNotFound (Text.ofString x))
        | some _, [(_, f)] => .ok f
        | some _, _ => .error (.multipleFiles (Text.ofString x))) := by
  unfold findFile
  rw [lookup_ofString]
  cases hg : s.get? x with
  | none => rfl
  | some r =>
    obtain ⟨-, rfl⟩ := mem_of_get? hg
    simp only [bind, Except.bind]
    generalize s.files.filter (·.1 == directory r.id) = fs
    rcases fs with _ | ⟨⟨_, f⟩, _ | _⟩ <;> rfl

/-- Keeping a file leaves the files as they were, or puts the new file in the directory of the
recipe the id names, in place of every file there. -/
theorem files_saveFile (id : Text) (b : List UInt8) (m : Option Text) :
    (s.after (s.saveFile id b m)).files = s.files ∨
      ∃ r, s.lookup id = .ok (some r) ∧ (s.after (s.saveFile id b m)).files =
        (directory r.id, ⟨extensionFor m, b⟩) :: s.files.filter (·.1 != directory r.id) := by
  rcases hs : s.saveFile id b m with e | ⟨saved, s'⟩
  · exact .inl rfl
  · unfold saveFile at hs
    obtain ⟨o, hl, hs⟩ := Except.bind_eq_ok hs
    cases o with
    | none =>
      cases hs
      exact .inl rfl
    | some r =>
      cases hs
      exact .inr ⟨r, hl, rfl⟩

/-- No directory holds two files. -/
def OneFilePerDirectory (s : Store) : Prop := (s.files.map (·.1)).Nodup

theorem OneFilePerDirectory.perform (h : s.OneFilePerDirectory) (c : Call) :
    (s.perform c).OneFilePerDirectory := by
  unfold OneFilePerDirectory
  by_cases hw : c.Writes
  · rwa [files_perform hw]
  cases c with
  | saveFile id b m =>
    show ((s.after (s.saveFile id b m)).files.map _).Nodup
    rcases files_saveFile (s := s) id b m with hf | ⟨r, -, hf⟩ <;> rw [hf]
    · exact h
    · refine List.nodup_cons.2 ⟨fun hm => ?_, h.sublist (List.filter_sublist.map _)⟩
      obtain ⟨p, hp, he⟩ := List.mem_map.1 hm
      have := (List.mem_filter.1 hp).2
      simp [he] at this
  | findById _ | find _ | findFile _ => exact h
  | _ => exact absurd trivial hw

theorem OneFilePerDirectory.run (h : s.OneFilePerDirectory) (cs : List Call) :
    (s.run cs).OneFilePerDirectory := by
  induction cs generalizing s with
  | nil => exact h
  | cons c cs ih => exact ih (h.perform c)

theorem Reachable.oneFilePerDirectory (hs : s.Reachable) : s.OneFilePerDirectory := by
  obtain ⟨s0, as, h0, rfl⟩ := hs
  obtain ⟨cs, hcs⟩ := s0.play_issues as
  rw [hcs]
  refine OneFilePerDirectory.run ?_ cs
  rcases h0 with rfl | rfl <;> exact List.nodup_nil

theorem length_filter_key_le_one {l : List (String × StoredFile)} (h : (l.map (·.1)).Nodup)
    (d : String) : (l.filter (·.1 == d)).length ≤ 1 := by
  have hnd : ((l.filter (·.1 == d)).map (·.1)).Nodup := h.sublist (List.filter_sublist.map _)
  have hkey : ∀ p ∈ l.filter (·.1 == d), p.1 = d := fun p hp => by
    simpa using (List.mem_filter.1 hp).2
  generalize l.filter (·.1 == d) = fs at hnd hkey
  match fs, hnd, hkey with
  | [], _, _ => simp
  | [_], _, _ => simp
  | p :: q :: _, hnd, hkey =>
    have hpq : p.1 = q.1 := by
      rw [hkey p List.mem_cons_self, hkey q (List.mem_cons_of_mem _ List.mem_cons_self)]
    exact absurd (by simp [hpq]) (List.nodup_cons.1 hnd).1

/-- **On a reachable store, finding a file never answers that its directory holds several.** -/
theorem findFile_ne_multipleFiles (hs : s.Reachable) (id id' : Text) :
    s.findFile id ≠ .ok (.error (.multipleFiles id')) := by
  unfold findFile
  rcases hl : s.lookup id with e | _ | r
  · simp [bind, Except.bind]
  · simp [bind, Except.bind, pure, Except.pure]
  · simp only [bind, Except.bind]
    have hle := length_filter_key_le_one hs.oneFilePerDirectory (directory r.id)
    rcases hf : s.files.filter (·.1 == directory r.id) with _ | ⟨p, _ | ⟨q, rest⟩⟩ <;>
      rw [hf] at hle ⊢
    · simp [pure, Except.pure]
    · simp [pure, Except.pure]
    · simp at hle

/-! ## A recipe and its file along a run -/

theorem isSome_get?_of_mem {r : Recipe} (hr : r ∈ s.recipes) : (s.get? r.id).isSome :=
  List.find?_isSome.2 ⟨r, hr, by simp⟩

/-- Every call but the deletion of a recipe keeps a recipe with its id. -/
theorem isSome_get?_perform {c : Call} {x : String} (hx : (s.get? x).isSome)
    (hd : c ≠ .delete (Text.ofString x)) : ((s.perform c).get? x).isSome := by
  obtain ⟨r, hr⟩ := Option.isSome_iff_exists.1 hx
  by_cases hdel : ∃ id, c = .delete id
  · obtain ⟨id, rfl⟩ := hdel
    rw [get?_delete_of_ne hr fun he => hd (by rw [he])]
    rfl
  · simp only [not_exists] at hdel
    obtain ⟨hmem, hrx⟩ := mem_of_get? hr
    obtain ⟨y, hy, hyx⟩ := ids_perform hdel hmem
    rw [← hrx, ← hyx]
    exact isSome_get?_of_mem hy

/-- The recipe with id `x` is in the store and its directory holds the file `f` alone. -/
structure HasFile (s : Store) (x : String) (f : StoredFile) : Prop where
  present : (s.get? x).isSome
  file : s.files.filter (·.1 == directory x) = [(directory x, f)]

/-- Keeping a file for a recipe of the store answers `true` and gives the recipe that file. -/
theorem saveFile_hasFile {x : String} (hx : (s.get? x).isSome) (b : List UInt8)
    (m : Option Text) :
    ∃ s', s.saveFile (Text.ofString x) b m = .ok (true, s') ∧
      s'.HasFile x ⟨extensionFor m, b⟩ := by
  rw [saveFile_ofString, if_pos hx]
  refine ⟨_, rfl, hx, ?_⟩
  rw [List.filter_cons_of_pos (by simp), List.filter_filter]
  simp

theorem HasFile.findFile {x : String} {f : StoredFile} (h : s.HasFile x f) :
    s.findFile (Text.ofString x) = .ok (.ok f) := by
  obtain ⟨r, hr⟩ := Option.isSome_iff_exists.1 h.present
  rw [findFile_ofString, hr, h.file]

/-- A call that does not supersede the file of a recipe keeps the recipe and its file, on a
store whose ids have the shape of a UUID. -/
theorem HasFile.perform {x : String} {f : StoredFile} (h : s.HasFile x f)
    (hu : ∀ r ∈ s.recipes, Field.isUuid (Text.ofString r.id) = true) {c : Call}
    (hc : ¬ c.Supersedes x) : (s.perform c).HasFile x f where
  present := isSome_get?_perform h.present fun he => hc (by rw [he]; rfl)
  file := by
    by_cases hw : c.Writes
    · rw [files_perform hw]
      exact h.file
    cases c with
    | saveFile id b m =>
      show (s.after (s.saveFile id b m)).files.filter _ = _
      rcases files_saveFile (s := s) id b m with hf | ⟨r, hl, hf⟩ <;> rw [hf]
      · exact h.file
      · obtain ⟨y, hy⟩ := Option.isSome_iff_exists.1 h.present
        obtain ⟨hmy, rfl⟩ := mem_of_get? hy
        have hne : r.id ≠ y.id := fun he => hc (by rw [eq_ofString_of_lookup hl, he]; rfl)
        have hdir : directory y.id ≠ directory r.id := by
          rw [directory_of_isUuid (hu y hmy), directory_of_isUuid (hu r (mem_of_lookup hl))]
          exact Ne.symm hne
        rw [filter_saveFile_of_ne hdir]
        exact h.file
    | findById _ | find _ | findFile _ => exact h.file
    | _ => exact absurd trivial hw

/-- **Along a run of calls none of which supersedes the file of a recipe, the recipe stays in
the store with its file**, from a valid store, while fewer than `16^12` ids were drawn. -/
theorem HasFile.run {x : String} {f : StoredFile} (h : s.HasFile x f) (hv : s.Valid)
    {cs : List Call} (hb : (s.run cs).drawn < 16 ^ 12) (hcs : ∀ c ∈ cs, ¬ c.Supersedes x) :
    (s.run cs).HasFile x f := by
  induction cs generalizing s with
  | nil => exact h
  | cons c cs ih =>
    have hu := hv.isUuid (lt_of_le_of_lt (drawn_le_run s (c :: cs)) hb)
    exact ih (h.perform hu (hcs c List.mem_cons_self)) (valid_run hv [c]) hb
      fun d hd => hcs d (List.mem_cons_of_mem c hd)

/-! ## Keeping and finding files -/

/-- **After a file is kept for a recipe of a reachable store, and until the file is superseded,
finding the recipe's file gives exactly the bytes kept, with the extension of the media type
they were sent with**, while the ids drawn keep the shape of a UUID (fewer than `16^12`).
Keeping or finding the file of a plain id that no recipe has answers `false`, keeping the store,
or that no recipe has the id; an id holding a lone surrogate, which no recipe has, faults. -/
theorem file_found_until_superseded (s : Store) (b : List UInt8) (m : Option Text) :
    (s.Reachable → ∀ (x : String), (s.get? x).isSome →
      ∃ s', s.saveFile (Text.ofString x) b m = .ok (true, s') ∧
        ∀ cs : List Call, (∀ c ∈ cs, ¬ c.Supersedes x) → (s'.run cs).drawn < 16 ^ 12 →
          (s'.run cs).findFile (Text.ofString x) = .ok (.ok ⟨extensionFor m, b⟩)) ∧
    (∀ (x : String), s.get? x = none →
      s.saveFile (Text.ofString x) b m = .ok (false, s) ∧
        s.findFile (Text.ofString x) = .ok (.error (.recipeNotExists (some (Text.ofString x))))) ∧
    (∀ (id : Text), id.hasLone = true →
      (∃ e, s.saveFile id b m = .error e) ∧ ∃ e, s.findFile id = .error e) := by
  refine ⟨fun hs x hx => ?_, fun x hx => ?_, fun id h => ⟨saveFile_eq_error h b m, findFile_eq_error h⟩⟩
  · obtain ⟨s', hsave, hs'⟩ := saveFile_hasFile hx b m
    have hv' : s'.Valid := by
      have := valid_run hs.valid [.saveFile (Text.ofString x) b m]
      rwa [run_singleton, perform, after_eq hsave] at this
    exact ⟨s', hsave, fun cs hcs hb => (hs'.run hv' hb hcs).findFile⟩
  · rw [saveFile_ofString, findFile_ofString, hx]
    exact ⟨rfl, rfl⟩

/-- A sample recipe keeps its file through another recipe's file and deletion and a search for
its file; an id no sample recipe has answers `false`; an id holding a lone surrogate faults. -/
theorem seeded_file_found_until_superseded :
    seeded.Reachable ∧ (seeded.get? "00000000-0000-0000-0000-000000000001").isSome ∧
    (∀ c ∈ [Call.saveFile (Text.ofString "00000000-0000-0000-0000-000000000002") [7] none,
        .delete (Text.ofString "00000000-0000-0000-0000-000000000002"),
        .findFile (Text.ofString "00000000-0000-0000-0000-000000000001")],
      ¬ c.Supersedes "00000000-0000-0000-0000-000000000001") ∧
    (∃ s', seeded.saveFile (Text.ofString "00000000-0000-0000-0000-000000000001") [1, 2]
        (some (Text.ofString "image/png")) = .ok (true, s') ∧
      (s'.run [.saveFile (Text.ofString "00000000-0000-0000-0000-000000000002") [7] none,
          .delete (Text.ofString "00000000-0000-0000-0000-000000000002"),
          .findFile (Text.ofString "00000000-0000-0000-0000-000000000001")]).drawn < 16 ^ 12 ∧
      (s'.run [.saveFile (Text.ofString "00000000-0000-0000-0000-000000000002") [7] none,
          .delete (Text.ofString "00000000-0000-0000-0000-000000000002"),
          .findFile (Text.ofString "00000000-0000-0000-0000-000000000001")]).findFile
          (Text.ofString "00000000-0000-0000-0000-000000000001") =
        .ok (.ok ⟨extensionFor (some (Text.ofString "image/png")), [1, 2]⟩)) ∧
    seeded.get? "nope" = none ∧
    (seeded.saveFile (Text.ofString "nope") [] none = .ok (false, seeded) ∧
      seeded.findFile (Text.ofString "nope") =
        .ok (.error (.recipeNotExists (some (Text.ofString "nope"))))) ∧
    Text.hasLone ⟨[.lone ⟨0xD800, by decide, by decide⟩]⟩ = true ∧
    ((∃ e, seeded.saveFile ⟨[.lone ⟨0xD800, by decide, by decide⟩]⟩ [] none = .error e) ∧
      ∃ e, seeded.findFile ⟨[.lone ⟨0xD800, by decide, by decide⟩]⟩ = .error e) := by
  have hx : (seeded.get? "00000000-0000-0000-0000-000000000001").isSome := by decide
  have hcs : ∀ c ∈ [Call.saveFile (Text.ofString "00000000-0000-0000-0000-000000000002") [7] none,
      .delete (Text.ofString "00000000-0000-0000-0000-000000000002"),
      .findFile (Text.ofString "00000000-0000-0000-0000-000000000001")],
      ¬ c.Supersedes "00000000-0000-0000-0000-000000000001" := by
    have hne : Text.ofString "00000000-0000-0000-0000-000000000002" ≠
        Text.ofString "00000000-0000-0000-0000-000000000001" := fun h => by
      have := Text.ofString_inj h
      simp at this
    simp [Call.Supersedes, hne]
  have hnone : seeded.get? "nope" = none := by decide
  have hlone : Text.hasLone ⟨[.lone ⟨0xD800, by decide, by decide⟩]⟩ = true := by decide
  obtain ⟨s', hsave, hrun⟩ := (file_found_until_superseded seeded [1, 2]
    (some (Text.ofString "image/png"))).1 reachable_seeded _ hx
  have hb : (s'.run [.saveFile (Text.ofString "00000000-0000-0000-0000-000000000002") [7] none,
      .delete (Text.ofString "00000000-0000-0000-0000-000000000002"),
      .findFile (Text.ofString "00000000-0000-0000-0000-000000000001")]).drawn < 16 ^ 12 := by
    have h1 := drawn_run_le s' [.saveFile (Text.ofString "00000000-0000-0000-0000-000000000002")
      [7] none, .delete (Text.ofString "00000000-0000-0000-0000-000000000002"),
      .findFile (Text.ofString "00000000-0000-0000-0000-000000000001")]
    have h2 := drawn_run_le seeded [.saveFile (Text.ofString "00000000-0000-0000-0000-000000000001")
      [1, 2] (some (Text.ofString "image/png"))]
    rw [run_singleton, perform, after_eq hsave] at h2
    simp only [List.length_cons, List.length_nil] at h1 h2
    have h0 : seeded.drawn = 0 := rfl
    omega
  exact ⟨reachable_seeded, hx, hcs, ⟨s', hsave, hb, hrun _ hcs hb⟩, hnone,
    (file_found_until_superseded seeded [] none).2.1 _ hnone, hlone,
    (file_found_until_superseded seeded [] none).2.2 _ hlone⟩

/-- An id holding a lone surrogate is the id of no sample recipe, yet keeping a file under it
does not answer `false`, and finding its file does not answer that no recipe has it: both
fault. -/
theorem saveFile_faults_on_lone_surrogate :
    (∀ r ∈ seeded.recipes, Text.ofString r.id ≠ ⟨[.lone ⟨0xD800, by decide, by decide⟩]⟩) ∧
    (∃ e, seeded.saveFile ⟨[.lone ⟨0xD800, by decide, by decide⟩]⟩ [] none = .error e) ∧
    ∃ e, seeded.findFile ⟨[.lone ⟨0xD800, by decide, by decide⟩]⟩ = .error e := by
  have hlone : Text.hasLone ⟨[.lone ⟨0xD800, by decide, by decide⟩]⟩ = true := by decide
  refine ⟨fun r _ he => ?_, saveFile_eq_error hlone [] none, findFile_eq_error hlone⟩
  have := congrArg Text.hasLone he
  rw [Text.hasLone_ofString, hlone] at this
  cases this

end Store

end RecipeCatalog

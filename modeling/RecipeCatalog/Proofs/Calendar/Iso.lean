import Mathlib
import RecipeCatalog.Recipe.Check
import RecipeCatalog.Proofs.Text.Plain

/-!
# Dates written back

A date that passes its field's rule, `yyyy-mm-dd` in ASCII digits, is kept as a `Date` and
written out again by `Date.iso`. **It is written out exactly as it was given**
(`Date.ofString_iso_of_isDate`): the digits read are the digits padded again. On the way,

* `Date.pad_toDigits` — a number below `10^w`, padded with zeros to `w` places, shows its last
  `w` digits;
* `Date.digits_append`, `Date.shape_isoBytes` — reading the bytes of digits gives their value;
* `Date.points_of_isDateShaped` — text of the date shape is ten points, eight digits and two
  hyphens, perhaps followed by a line feed, which reading refuses (`Date.read_isoPoints`).

The other way round, whatever ISO form a date was read from (with or without hyphens, or as a
week date), **it is a calendar date** (`Date.ofParts_of_read`), and **a calendar date is read
back from its ISO form** (`Date.read_iso`).
-/

set_option autoImplicit false

namespace RecipeCatalog

namespace Date

/-! ## Decimal digits -/

/-- The number that decimal digits stand for, most significant first. -/
def digitsValue (ds : List Nat) : Nat := ds.foldl (fun acc d => acc * 10 + d) 0

/-- The last `w` decimal digits of a number, most significant first. -/
def lastDigits : Nat → Nat → List Nat
  | 0, _ => []
  | w + 1, n => lastDigits w (n / 10) ++ [n % 10]

theorem digitsValue_append (ds : List Nat) (d : Nat) :
    digitsValue (ds ++ [d]) = digitsValue ds * 10 + d := by
  simp [digitsValue, List.foldl_append]

theorem lastDigits_zero : ∀ w, lastDigits w 0 = List.replicate w 0
  | 0 => rfl
  | w + 1 => by rw [lastDigits, lastDigits_zero w, List.replicate_succ']

theorem lastDigits_digitsValue (ds : List Nat) (h : ∀ d ∈ ds, d < 10) :
    lastDigits ds.length (digitsValue ds) = ds := by
  induction ds using List.reverseRecOn with
  | nil => rfl
  | append_singleton ds d ih =>
    have hd : d < 10 := h d (by simp)
    rw [List.length_append, List.length_singleton, lastDigits, digitsValue_append,
      show (digitsValue ds * 10 + d) / 10 = digitsValue ds by omega,
      show (digitsValue ds * 10 + d) % 10 = d by omega,
      ih (fun x hx => h x (by simp [hx]))]

theorem digitsValue_lt (ds : List Nat) (h : ∀ d ∈ ds, d < 10) : digitsValue ds < 10 ^ ds.length := by
  induction ds using List.reverseRecOn with
  | nil => decide
  | append_singleton ds d ih =>
    have hd : d < 10 := h d (by simp)
    have := ih (fun x hx => h x (by simp [hx]))
    rw [digitsValue_append, List.length_append, List.length_singleton, Nat.pow_succ]
    omega

/-- A number below `10^w` written in decimal and padded with zeros to `w` places shows its last
`w` digits. -/
theorem pad_toDigits {w n : Nat} (hw : 0 < w) (hn : n < 10 ^ w) :
    List.replicate (w - (Nat.toDigits 10 n).length) '0' ++ Nat.toDigits 10 n =
      (lastDigits w n).map Nat.digitChar := by
  induction w generalizing n with
  | zero => omega
  | succ w ih =>
    rw [lastDigits, List.map_append, Nat.toDigits_eq_if (by decide)]
    split
    · -- one digit, behind `w` zeros
      rename_i h10
      rw [Nat.div_eq_of_lt h10, lastDigits_zero, Nat.mod_eq_of_lt h10]
      simp
    · rename_i h10
      have hw' : 0 < w := by
        rcases w with _ | w
        · simp at hn; omega
        · omega
      have hq : n / 10 < 10 ^ w := by rw [Nat.pow_succ] at hn; omega
      rw [← ih hw' hq]
      simp only [List.length_append, List.length_singleton, List.map_cons, List.map_nil,
        List.append_assoc]
      congr 2
      omega

/-! ## The points and bytes of digits -/

/-- The ASCII byte of a decimal digit. -/
def digitByte (d : Nat) : UInt8 := (48 + d).toUInt8

/-- The point of a decimal digit. -/
def digitPoint (d : Nat) : Point := .char (Nat.digitChar d)

theorem toNat_digitChar {d : Nat} (hd : d < 10) : (Nat.digitChar d).toNat = 48 + d := by
  interval_cases d <;> rfl

theorem toNat_digitByte {d : Nat} (hd : d < 10) : (digitByte d).toNat = 48 + d := by
  simp [digitByte]
  omega

/-- Reading digits that stand at the front of bytes. -/
theorem digits_append {ds : List Nat} {n : Nat} (hn : ds.length = n) (hd : ∀ d ∈ ds, d < 10)
    (rest : List UInt8) : digits n (ds.map digitByte ++ rest) = some (digitsValue ds, rest) := by
  subst hn
  have htake : (ds.map digitByte ++ rest).take ds.length = ds.map digitByte := by simp
  have hdrop : (ds.map digitByte ++ rest).drop ds.length = rest := by simp
  have hall : (ds.map digitByte).all (fun b => 48 ≤ b && b ≤ 57) = true := by
    simp only [List.all_map, List.all_eq_true]
    intro d hmem
    have h := toNat_digitByte (hd d hmem)
    have h10 := hd d hmem
    simp [UInt8.le_iff_toNat_le, h]
    omega
  have hval : (ds.map digitByte).foldl (fun acc b => acc * 10 + (b.toNat - 48)) 0 =
      digitsValue ds := by
    rw [List.foldl_map, digitsValue]
    apply List.foldl_ext
    intro acc d hmem
    rw [toNat_digitByte (hd d hmem)]
    omega
  unfold digits
  simp only [htake, hdrop, hall, List.length_map, beq_self_eq_true, Bool.and_self, if_true, hval]

/-- The bytes of a date written `yyyy-mm-dd` with the given digits. -/
def isoBytes (ys ms ds : List Nat) : List UInt8 :=
  ys.map digitByte ++ 45 :: (ms.map digitByte ++ 45 :: ds.map digitByte)

theorem shape_isoBytes {ys ms ds : List Nat} (hy : ys.length = 4) (hm : ms.length = 2)
    (hd : ds.length = 2) (hdig : ∀ d ∈ ys ++ ms ++ ds, d < 10) :
    shape (isoBytes ys ms ds) = some (.calendar (digitsValue ys) (digitsValue ms) (digitsValue ds)) := by
  have hys : ∀ d ∈ ys, d < 10 := fun d h => hdig d (by simp [h])
  have hms : ∀ d ∈ ms, d < 10 := fun d h => hdig d (by simp [h])
  have hds : ∀ d ∈ ds, d < 10 := fun d h => hdig d (by simp [h])
  obtain ⟨m0, m1, rfl⟩ := List.length_eq_two.1 hm
  have hm0 : digitByte m0 ≠ 87 := by
    intro e
    have := toNat_digitByte (hms m0 (by simp))
    rw [e] at this
    have := hms m0 (by simp)
    simp at *
    omega
  unfold shape isoBytes
  rw [digits_append hy hys]
  simp only [Option.bind_eq_bind, Option.bind_some, List.map_cons, List.map_nil, List.cons_append,
    List.nil_append]
  split
  · rename_i heq
    simp only [List.cons.injEq] at heq
    exact absurd heq.1 hm0
  · have h2 := @digits_append [m0, m1] 2 rfl hms (45 :: List.map digitByte ds)
    have h3 := digits_append hd hds []
    simp only [List.map_cons, List.map_nil, List.cons_append, List.nil_append,
      List.append_nil] at h2 h3
    simp only [h2, Option.bind_some, if_true, h3]
    rfl

/-! ## The points of a date -/

/-- The points of a date written `yyyy-mm-dd` with the given digits. -/
def isoPoints (ys ms ds : List Nat) : List Point :=
  ys.map digitPoint ++ .char '-' :: (ms.map digitPoint ++ .char '-' :: ds.map digitPoint)

/-- A point that the date shape reads as a digit is the point of a digit. -/
theorem exists_digitPoint {p : Point}
    (h : (match p with | .char c => c.isDigit | .lone _ => false) = true) :
    ∃ k, k < 10 ∧ p = digitPoint k := by
  cases p with
  | lone s => simp at h
  | char c =>
    have hlo : 48 ≤ c.toNat ∧ c.toNat ≤ 57 := by
      simp only [Char.isDigit, Bool.and_eq_true, decide_eq_true_eq] at h
      simp [UInt32.le_iff_toNat_le] at h
      exact h
    refine ⟨c.toNat - 48, by omega, ?_⟩
    simp only [digitPoint, Point.char.injEq]
    apply Char.toNat_inj.1
    rw [toNat_digitChar (by omega)]
    omega

theorem points_of_isDateShaped {t : Text} (h : Field.isDateShaped t = true) :
    ∃ ys ms ds, ys.length = 4 ∧ ms.length = 2 ∧ ds.length = 2 ∧ (∀ d ∈ ys ++ ms ++ ds, d < 10) ∧
      (t.points = isoPoints ys ms ds ∨ t.points = isoPoints ys ms ds ++ [.char '\n']) := by
  unfold Field.isDateShaped at h
  simp only [Bool.and_eq_true, beq_iff_eq, Bool.or_eq_true, List.all_eq_true, List.mem_range] at h
  obtain ⟨⟨hlen, hrest⟩, hall⟩ := h
  have hsplit := List.take_append_drop 10 t.points
  rcases hbody : t.points.take 10 with _ | ⟨p0, _ | ⟨p1, _ | ⟨p2, _ | ⟨p3, _ | ⟨p4, _ | ⟨p5,
    _ | ⟨p6, _ | ⟨p7, _ | ⟨p8, _ | ⟨p9, _ | ⟨p10, rest⟩⟩⟩⟩⟩⟩⟩⟩⟩⟩⟩
  all_goals rw [hbody] at hlen
  all_goals try (simp at hlen; done)
  rw [hbody] at hall hsplit
  obtain ⟨k0, hk0, rfl⟩ := exists_digitPoint (p := p0) (by have h := hall 0 (by decide); simp at h; exact h)
  obtain ⟨k1, hk1, rfl⟩ := exists_digitPoint (p := p1) (by have h := hall 1 (by decide); simp at h; exact h)
  obtain ⟨k2, hk2, rfl⟩ := exists_digitPoint (p := p2) (by have h := hall 2 (by decide); simp at h; exact h)
  obtain ⟨k3, hk3, rfl⟩ := exists_digitPoint (p := p3) (by have h := hall 3 (by decide); simp at h; exact h)
  obtain ⟨k5, hk5, rfl⟩ := exists_digitPoint (p := p5) (by have h := hall 5 (by decide); simp at h; exact h)
  obtain ⟨k6, hk6, rfl⟩ := exists_digitPoint (p := p6) (by have h := hall 6 (by decide); simp at h; exact h)
  obtain ⟨k8, hk8, rfl⟩ := exists_digitPoint (p := p8) (by have h := hall 8 (by decide); simp at h; exact h)
  obtain ⟨k9, hk9, rfl⟩ := exists_digitPoint (p := p9) (by have h := hall 9 (by decide); simp at h; exact h)
  have h4 : p4 = .char '-' := by simpa using hall 4 (by decide)
  have h7 : p7 = .char '-' := by simpa using hall 7 (by decide)
  subst h4 h7
  refine ⟨[k0, k1, k2, k3], [k5, k6], [k8, k9], rfl, rfl, rfl, ?_, ?_⟩
  · simp only [List.cons_append, List.nil_append, List.mem_cons, List.not_mem_nil, or_false]
    rintro d (rfl | rfl | rfl | rfl | rfl | rfl | rfl | rfl) <;> assumption
  · rcases hrest with hr | hr
    · left
      rw [← hsplit, hr]
      rfl
    · right
      rw [← hsplit, hr]
      rfl

theorem flatMap_digitPoint {ds : List Nat} (h : ∀ d ∈ ds, d < 10) :
    (ds.map digitPoint).flatMap (fun p => Utf8.encodeCode p.code) = ds.map digitByte := by
  induction ds with
  | nil => rfl
  | cons d ds ih =>
    have hd := toNat_digitChar (h d (by simp))
    have h10 := h d (by simp)
    rw [List.map_cons, List.flatMap_cons, ih (fun x hx => h x (by simp [hx])), List.map_cons]
    simp only [digitPoint, Point.code, hd, Utf8.encodeCode, show 48 + d < 0x80 by omega, if_true]
    rfl

theorem encodePassing_isoPoints {ys ms ds : List Nat} (hdig : ∀ d ∈ ys ++ ms ++ ds, d < 10)
    (rest : List Point) :
    Utf8.encodePassing ⟨isoPoints ys ms ds ++ rest⟩ =
      isoBytes ys ms ds ++ Utf8.encodePassing ⟨rest⟩ := by
  have hys : ∀ d ∈ ys, d < 10 := fun d h => hdig d (by simp [h])
  have hms : ∀ d ∈ ms, d < 10 := fun d h => hdig d (by simp [h])
  have hds : ∀ d ∈ ds, d < 10 := fun d h => hdig d (by simp [h])
  have hdash : Utf8.encodeCode (Point.char '-').code = [45] := rfl
  simp only [Utf8.encodePassing, isoPoints, isoBytes, List.flatMap_append, List.flatMap_cons,
    flatMap_digitPoint hys, flatMap_digitPoint hms, flatMap_digitPoint hds, hdash,
    List.append_assoc, List.cons_append, List.nil_append]

/-- A number of `w` digits written in decimal and padded with zeros to `w` places. -/
theorem padded_digitsValue {ds : List Nat} {w : Nat} (hw : ds.length = w) (hne : ds ≠ [])
    (h : ∀ d ∈ ds, d < 10) :
    String.ofList (List.replicate (w - (toString (digitsValue ds)).length) '0') ++
      toString (digitsValue ds) = String.ofList (ds.map Nat.digitChar) := by
  subst hw
  have hpos : 0 < ds.length := List.length_pos_iff.2 hne
  rw [Nat.toString_eq_ofList_toDigits, String.length_ofList, ← String.ofList_append,
    pad_toDigits hpos (digitsValue_lt ds h), lastDigits_digitsValue ds h]

/-- **The ISO form of a date read from digits shows those digits.** -/
theorem ofString_iso_digits {ys ms ds : List Nat} (hy : ys.length = 4) (hm : ms.length = 2)
    (hd : ds.length = 2) (hdig : ∀ d ∈ ys ++ ms ++ ds, d < 10) :
    Text.ofString (Date.mk (digitsValue ys) (digitsValue ms) (digitsValue ds)).iso =
      ⟨isoPoints ys ms ds⟩ := by
  have hys : ∀ d ∈ ys, d < 10 := fun d h => hdig d (by simp [h])
  have hms : ∀ d ∈ ms, d < 10 := fun d h => hdig d (by simp [h])
  have hds : ∀ d ∈ ds, d < 10 := fun d h => hdig d (by simp [h])
  have hne : ∀ {l : List Nat} {n : Nat}, l.length = n + 1 → l ≠ [] := by
    rintro l n hl rfl
    simp at hl
  unfold iso
  dsimp only
  rw [padded_digitsValue hy (hne hy) hys, padded_digitsValue hm (hne hm) hms,
    padded_digitsValue hd (hne hd) hds]
  simp [Text.ofString, isoPoints]
  rfl

theorem eq_of_ofParts {y : Int} {m d : Nat} {dt : Date} (h : ofParts y m d = .ok dt) :
    dt = ⟨y.toNat, m, d⟩ := by
  unfold ofParts at h
  split at h
  · cases h
  · split at h
    · cases h
    · split at h
      · cases h
      · cases h
        rfl

theorem ok_of_mapError {ε ε' α : Type} {r : Except ε α} {f : ε → ε'} {a : α}
    (h : r.mapError f = .ok a) : r = .ok a := by
  cases r with
  | error e => cases h
  | ok b => cases h; rfl

/-- Reading the points of a date written `yyyy-mm-dd` gives the date of their digits. -/
theorem read_isoPoints_eq {ys ms ds : List Nat} (hy : ys.length = 4) (hm : ms.length = 2)
    (hd : ds.length = 2) (hdig : ∀ d ∈ ys ++ ms ++ ds, d < 10) :
    read ⟨isoPoints ys ms ds⟩ =
      (ofParts (digitsValue ys) (digitsValue ms) (digitsValue ds)).mapError Fault.dateRange := by
  have hlen : (isoBytes ys ms ds).length = 10 := by simp [isoBytes, hy, hm, hd]
  have hlone : (Text.mk (isoPoints ys ms ds)).hasLone = false := by
    rw [← ofString_iso_digits hy hm hd hdig, Text.hasLone_ofString]
  have henc : Utf8.encodePassing ⟨isoPoints ys ms ds⟩ = isoBytes ys ms ds := by
    have h := encodePassing_isoPoints hdig []
    rw [List.append_nil] at h
    rw [h, show Utf8.encodePassing ⟨[]⟩ = [] from rfl, List.append_nil]
  unfold read
  simp only [henc, hlone, hlen, shape_isoBytes hy hm hd hdig]
  rfl

/-- Reading the points of a date written `yyyy-mm-dd`: with a line feed after them they are
refused, and without one they give the date of their digits. -/
theorem read_isoPoints {ys ms ds : List Nat} (hy : ys.length = 4) (hm : ms.length = 2)
    (hd : ds.length = 2) (hdig : ∀ d ∈ ys ++ ms ++ ds, d < 10) {rest : List Point}
    (hrest : rest = [] ∨ rest = [.char '\n']) {dt : Date}
    (h : read ⟨isoPoints ys ms ds ++ rest⟩ = .ok dt) :
    rest = [] ∧ ofParts (digitsValue ys) (digitsValue ms) (digitsValue ds) = .ok dt := by
  rcases hrest with rfl | rfl
  · rw [List.append_nil, read_isoPoints_eq hy hm hd hdig] at h
    exact ⟨rfl, ok_of_mapError h⟩
  · -- eleven bytes are too many for a date
    have hlen : (isoBytes ys ms ds).length = 10 := by simp [isoBytes, hy, hm, hd]
    have henc : (Utf8.encodePassing ⟨[.char '\n']⟩).length = 1 := rfl
    unfold read at h
    rw [encodePassing_isoPoints hdig] at h
    simp [List.length_append, hlen, henc] at h

theorem hasLone_eq_false_of_read {t : Text} {dt : Date} (h : read t = .ok dt) :
    t.hasLone = false := by
  unfold read at h
  dsimp only at h
  split at h
  · cases h
  · rename_i hc
    simp only [Bool.or_eq_true, not_or] at hc
    simpa using hc.1

/-- **A date that passes its field's rule is written back as it was given.** -/
theorem ofString_iso_of_isDate {t : Text} {dt : Date} (ht : Field.isDate t = true)
    (hr : read t = .ok dt) : Text.ofString dt.iso = t := by
  have hshape : Field.isDateShaped t = true := by
    simp only [Field.isDate, Bool.and_eq_true] at ht
    exact ht.1
  obtain ⟨ys, ms, ds, hy, hm, hd, hdig, hpts⟩ := points_of_isDateShaped hshape
  obtain ⟨rest, hrest, ht'⟩ : ∃ rest, (rest = [] ∨ rest = [.char '\n']) ∧
      t = ⟨isoPoints ys ms ds ++ rest⟩ := by
    rcases hpts with h | h
    · exact ⟨[], .inl rfl, by rw [List.append_nil, ← h]⟩
    · exact ⟨_, .inr rfl, by rw [← h]⟩
  subst ht'
  obtain ⟨rfl, hparts⟩ := read_isoPoints hy hm hd hdig hrest hr
  rw [eq_of_ofParts hparts, Int.toNat_natCast, ofString_iso_digits hy hm hd hdig,
    List.append_nil]

/-! ## Every date read is written back and read again -/

theorem length_lastDigits : ∀ w n, (lastDigits w n).length = w
  | 0, _ => rfl
  | w + 1, n => by rw [lastDigits, List.length_append, length_lastDigits w, List.length_singleton]

theorem lt_ten_of_mem_lastDigits : ∀ {w n d : Nat}, d ∈ lastDigits w n → d < 10
  | 0, _, _, h => by simp [lastDigits] at h
  | w + 1, n, d, h => by
    rw [lastDigits, List.mem_append, List.mem_singleton] at h
    rcases h with h | rfl
    · exact lt_ten_of_mem_lastDigits h
    · exact Nat.mod_lt _ (by decide)

theorem digitsValue_lastDigits : ∀ {w n : Nat}, n < 10 ^ w → digitsValue (lastDigits w n) = n
  | 0, n, h => by
    have : n = 0 := by simpa using h
    subst this
    rfl
  | w + 1, n, h => by
    have hq : n / 10 < 10 ^ w := by rw [Nat.pow_succ] at h; omega
    rw [lastDigits, digitsValue_append, digitsValue_lastDigits hq]
    omega

theorem daysIn_le (y : Int) (m : Nat) : daysIn y m ≤ 31 := by
  unfold daysIn
  split
  · split <;> omega
  all_goals omega

/-- A date that `ofParts` builds has at most four year digits and two month and day digits. -/
theorem bounds_of_ofParts {y : Int} {m d : Nat} {dt : Date} (h : ofParts y m d = .ok dt) :
    dt.year < 10 ^ 4 ∧ dt.month < 10 ^ 2 ∧ dt.day < 10 ^ 2 := by
  have hdt := eq_of_ofParts h
  have hdays := daysIn_le y m
  unfold ofParts at h
  split at h
  · cases h
  · split at h
    · cases h
    · split at h
      · cases h
      · subst hdt
        refine ⟨?_, ?_, ?_⟩ <;> simp only <;> omega

theorem ofParts_self {y : Int} {m d : Nat} {dt : Date} (h : ofParts y m d = .ok dt) :
    ofParts dt.year dt.month dt.day = .ok dt := by
  have hdt := eq_of_ofParts h
  have hy : 1 ≤ y := by
    unfold ofParts at h
    split at h
    · cases h
    · omega
  subst hdt
  simpa [Int.toNat_of_nonneg (by omega : (0 : Int) ≤ y)] using h

/-- **Every date read from text is a calendar date:** `ofParts` builds it again. -/
theorem ofParts_of_read {t : Text} {dt : Date} (h : read t = .ok dt) :
    ofParts dt.year dt.month dt.day = .ok dt := by
  unfold read at h
  dsimp only at h
  split at h
  · cases h
  · split at h
    · cases h
    · exact ofParts_self (ok_of_mapError h)
    · rename_i y w d _
      split at h
      · cases h
      · rename_i r hw
        unfold ofIsoWeek at hw
        split at hw
        · cases hw
        · split at hw
          · cases hw
          · cases hw
            exact ofParts_self (ok_of_mapError h)

/-- **A calendar date is read back from its ISO form.** -/
theorem read_iso {dt : Date} (h : ofParts dt.year dt.month dt.day = .ok dt) :
    read (Text.ofString dt.iso) = .ok dt := by
  obtain ⟨hy, hm, hd⟩ := bounds_of_ofParts h
  have hdig : ∀ d ∈ lastDigits 4 dt.year ++ lastDigits 2 dt.month ++ lastDigits 2 dt.day,
      d < 10 := by
    intro d hmem
    simp only [List.mem_append] at hmem
    rcases hmem with (hmem | hmem) | hmem <;> exact lt_ten_of_mem_lastDigits hmem
  have hiso := ofString_iso_digits (length_lastDigits 4 dt.year) (length_lastDigits 2 dt.month)
    (length_lastDigits 2 dt.day) hdig
  rw [digitsValue_lastDigits hy, digitsValue_lastDigits hm, digitsValue_lastDigits hd] at hiso
  rw [hiso, read_isoPoints_eq (length_lastDigits 4 _) (length_lastDigits 2 _)
    (length_lastDigits 2 _) hdig, digitsValue_lastDigits hy, digitsValue_lastDigits hm,
    digitsValue_lastDigits hd, h]
  rfl

end Date

end RecipeCatalog

/-!
# Suggesting names

When a document names a field, argument or type the schema does not have, the error suggests
the names that are close to it. Closeness is the optimal string alignment distance between the
names in lowercase (insertions, deletions, substitutions and swaps of neighbours), where a
change of case alone counts as one edit. A name is suggested when its distance is at most
`⌊2n/5⌋ + 1` for a given name of length `n`; suggestions come nearest first, and names at one
distance in natural order, which compares runs of digits by their value.

Main definitions: `Graph.distance?`, `Graph.suggestions`, `Graph.didYouMean`,
`Graph.naturalCompare`.
-/

namespace RecipeCatalog

namespace Graph

/-- A run of a name for natural ordering: letters and other characters, or digits. -/
inductive Run where
  | text (s : List Char)
  | number (value : Nat) (s : List Char)
  deriving DecidableEq, Repr

/-- The runs of a name: runs of other characters and runs of digits, alternating, starting with
a possibly empty run of other characters. Each round takes at least one digit, so as many rounds
as characters suffice. -/
def runs (cs : List Char) : List Run := go cs.length cs
where
  /-- The runs of the rest of a name, with a bound on the rounds. -/
  go : Nat → List Char → List Run
    | 0, cs => [.text cs]
    | fuel + 1, cs =>
      let text := cs.takeWhile (fun c => !c.isDigit)
      let rest := cs.drop text.length
      let digits := rest.takeWhile Char.isDigit
      if digits.isEmpty then [.text text]
      else
        .text text :: .number (digits.foldl (fun n c => 10 * n + (c.toNat - 48)) 0) digits ::
          go fuel (rest.drop digits.length)

/-- Compares two lists of characters by code points. -/
def compareChars : List Char → List Char → Ordering
  | [], [] => .eq
  | [], _ :: _ => .lt
  | _ :: _, [] => .gt
  | a :: as, b :: bs =>
    if a.toNat < b.toNat then .lt else if b.toNat < a.toNat then .gt else compareChars as bs

/-- Compares two runs: numbers by value, then by their digits. -/
def Run.compare : Run → Run → Ordering
  | .text a, .text b => compareChars a b
  | .number m a, .number n b =>
    if m < n then .lt else if n < m then .gt else compareChars a b
  | .text _, .number _ _ => .lt
  | .number _ _, .text _ => .gt

/-- Compares two lists of runs, the shorter first when one starts the other. -/
def compareRuns : List Run → List Run → Ordering
  | [], [] => .eq
  | [], _ :: _ => .lt
  | _ :: _, [] => .gt
  | a :: as, b :: bs =>
    match a.compare b with
    | .eq => compareRuns as bs
    | o => o

/-- The natural order of names. -/
def naturalCompare (a b : String) : Ordering := compareRuns (runs a.toList) (runs b.toList)

/-- The lowercase of a name, letter by letter. -/
def lowerName (s : String) : List Nat := s.toList.map fun c => c.toLower.toNat

/-- One row of the alignment table, from the two rows before it. -/
def nextRow (a b : Array Nat) (i : Nat) (up upUp : Array Nat) : Array Nat :=
  (List.range b.size).foldl (fun (row : Array Nat) j0 =>
    let j := j0 + 1
    let cost := if a.getD (i - 1) 0 == b.getD (j - 1) 0 then 0 else 1
    let cell := min (min (up.getD j 0 + 1) (row.getD (j - 1) 0 + 1)) (up.getD (j - 1) 0 + cost)
    let cell := if i > 1 && j > 1 && a.getD (i - 1) 0 == b.getD (j - 2) 0 &&
        a.getD (i - 2) 0 == b.getD (j - 1) 0 then min cell (upUp.getD (j - 2) 0 + 1) else cell
    row.push cell) #[i]

/-- The alignment distance of two lists of code points, if it is within a threshold; rows whose
least cell passes the threshold end the count early. -/
def alignment (a b : Array Nat) (threshold : Nat) : Option Nat :=
  let first := (List.range (b.size + 1)).toArray
  let rec go (i : Nat) (up upUp : Array Nat) (fuel : Nat) : Option Nat :=
    match fuel with
    | 0 => let d := up.getD b.size 0; if d ≤ threshold then some d else none
    | fuel + 1 =>
      let row := nextRow a b i up upUp
      if row.foldl min i > threshold then none else go (i + 1) row up fuel
  go 1 first first a.size

/-- The distance from a given name to an option, if it is within a threshold. -/
def distance? (given option : String) (threshold : Nat) : Option Nat :=
  if given == option then some 0
  else
    let g := lowerName given
    let o := lowerName option
    if g == o then some 1
    else
      let (a, b) := if o.length < g.length then (g, o) else (o, g)
      if a.length - b.length > threshold then none
      else alignment a.toArray b.toArray threshold

/-- The options close to a given name, nearest first and in natural order at one distance. -/
def suggestions (given : String) (options : List String) : List String :=
  let threshold := given.length * 2 / 5 + 1
  let scored := options.filterMap fun o => (distance? given o threshold).map (o, ·)
  let sorted := scored.mergeSort fun x y =>
    x.2 < y.2 || (x.2 == y.2 && naturalCompare x.1 y.1 != .gt)
  sorted.map Prod.fst

/-- The hint closing an error about an unknown name: up to five suggestions in quotes, the last
joined by `or`. -/
def didYouMean (suggested : List String) (lead : String) : String :=
  let quote (s : String) : String := "'" ++ s ++ "'"
  let lead := if lead.isEmpty then "" else lead ++ " "
  match suggested.take 5 with
  | [] => ""
  | [a] => " Did you mean " ++ lead ++ quote a ++ "?"
  | [a, b] => " Did you mean " ++ lead ++ quote a ++ " or " ++ quote b ++ "?"
  | xs => " Did you mean " ++ lead ++ ", ".intercalate ((xs.dropLast).map quote) ++ ", or " ++
      quote (xs.getLast?.getD "") ++ "?"

end Graph

end RecipeCatalog

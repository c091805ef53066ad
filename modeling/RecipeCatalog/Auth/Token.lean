import RecipeCatalog.Json.Value
import RecipeCatalog.Fault

/-!
# Bearer tokens

The service is configured with a table that maps tokens to user names (empty unless
configured). A presented token belongs to the first entry whose
token has the same UTF-8 bytes. Both sides are written as UTF-8 for the comparison, entry by
entry, so a lone surrogate in a table token, or in the presented token while the table is not
empty, is a fault.

Main definition: `TokenTable.verify`.
-/

namespace RecipeCatalog

/-- Tokens and the users they belong to, in order. -/
abbrev TokenTable := List (Text × Value)

namespace TokenTable

/-- The user a token belongs to. -/
def verify (table : TokenTable) (token : Text) : Except Fault (Option Value) :=
  match table with
  | [] => .ok none
  | (known, user) :: rest => do
    let k ← known.utf8?
    let t ← token.utf8?
    if k == t then pure (some user) else verify rest token

end TokenTable

end RecipeCatalog

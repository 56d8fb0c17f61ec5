import WifiTrust.Files.Path

/-!
# Accounts

The system keeps a table with a line for each account: seven fields with colons between them, the
third of which is the number of the account and the sixth its home directory.
-/

namespace WifiTrust.Account

/-- The home directory of the account with the given number. The first line for a number counts. -/
def home? (table number : String) : Option Path :=
  let fields := (Text.pieces '\n' table.toList).map (Text.pieces ':')
  match fields.find? (·[2]? = some number.toList) with
  | some entry => ((entry[5]?.filter (· ≠ [])).map String.ofList).map Path.mk
  | none => none

end WifiTrust.Account

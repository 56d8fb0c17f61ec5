namespace WifiTrust.Text

/-- The first piece and the others. -/
def cutAt (sep : Char) : List Char → List Char × List (List Char)
  | [] => ([], [])
  | c :: cs =>
      let (piece, others) := cutAt sep cs
      if c = sep then ([], piece :: others) else (c :: piece, others)

def pieces (sep : Char) (cs : List Char) : List (List Char) :=
  (cutAt sep cs).1 :: (cutAt sep cs).2

end WifiTrust.Text

import WifiTrust.Text.Quoted

namespace WifiTrust

/-- The fields of a subject or issuer name; a field that the name does not give is empty. -/
structure DistinguishedName where
  commonName : String := ""
  organization : String := ""
  email : String := ""
  country : String := ""
  state : String := ""
  locality : String := ""
  deriving DecidableEq, Inhabited, Repr

/-- Why a written name is refused. -/
inductive NameError where
  | badValue (part : String)
  | noCommonName (name : String)
  deriving DecidableEq, Repr

namespace NameError

def message : NameError → String
  | badValue part => "bad value in " ++ Text.quote part
  | noCommonName name => "no common name in " ++ Text.quote name

end NameError

namespace DistinguishedName

inductive Field where
  | commonName
  | organization
  | email
  | country
  | state
  | locality
  deriving DecidableEq, Repr

def get (n : DistinguishedName) : Field → String
  | .commonName => n.commonName
  | .organization => n.organization
  | .email => n.email
  | .country => n.country
  | .state => n.state
  | .locality => n.locality

def set (n : DistinguishedName) (f : Field) (v : String) : DistinguishedName :=
  match f with
  | .commonName => { n with commonName := v }
  | .organization => { n with organization := v }
  | .email => { n with email := v }
  | .country => { n with country := v }
  | .state => { n with state := v }
  | .locality => { n with locality := v }

@[simp] theorem get_set (n : DistinguishedName) (f g : Field) (v : String) :
    (n.set f v).get g = if g = f then v else n.get g := by
  cases f <;> cases g <;> rfl

end DistinguishedName

end WifiTrust

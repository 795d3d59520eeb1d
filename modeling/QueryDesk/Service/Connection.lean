import QueryDesk.Settings.File

/-!
# The connection to the store

The address of the store is given, or taken from the variable `MONGODB_URI`. A file adds variables
to the environment, but does not replace any that are set, be they empty.
-/

namespace QueryDesk

/-- A connection that is about to be opened. -/
structure Connection where
  uri : Text
  /-- How many milliseconds the choice of a server may take. -/
  selectionTimeout : Int := 10000
  deriving DecidableEq, Repr

namespace Connection

def missingUri : Text :=
  "MONGODB_URI is required (set it in .env or environment)"

/-- The value of a variable in an environment that a file may add to. -/
def lookup? (environment : List (Text × Text)) (file : Option Text) (name : Text) :
    Option Text :=
  let added := (file.map (Settings.ofFile .environmentFirst environment)).getD []
  match Settings.inEnvironment? environment name with
  | some value => some value
  | none => (added.get? name).bind id

/-- The connection to a given address, or to that of the environment. An empty variable counts as
none. -/
def prepare (given : Option Text) (environment : List (Text × Text)) (file : Option Text)
    (selectionTimeout : Int) : Option Connection :=
  match given with
  | some uri => some { uri, selectionTimeout }
  | none =>
    match lookup? environment file "MONGODB_URI" with
    | none => none
    | some uri => if uri.isEmpty then none else some { uri, selectionTimeout }

end Connection

end QueryDesk

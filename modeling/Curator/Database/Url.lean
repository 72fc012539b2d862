import Curator.Settings
import Curator.Sql.Dialect
/-!
# Database addresses

Which database to use and how it is reached.  The environment speaks before the settings; an address
names its kind of database before `://`.
-/

set_option autoImplicit false

namespace Curator

open Sql

/-- The mark between the kind of a database and its place. -/
def schemeMark : String := "://"

/-- The address used where none is given. -/
def standardUrl : String := "sqlite:///resourceforge.db"

/-- The address of the database: that of the environment, then that of the settings. -/
def resolveUrl (env : Mapping String) (settings : Option Settings) : String :=
  let nonEmpty := fun (url : Option String) => url.filter (· != "")
  ((nonEmpty (env.value? Settings.urlVariable)).or
    (nonEmpty (settings.bind (·.databaseUrl)))).getD standardUrl

/-- The path of a database file: what follows the mark without one leading slash.  No path at all
means a database in memory. -/
def sqlitePath (url : String) : String :=
  let rest :=
    match Text.splitOnce? url schemeMark with
    | some (_, rest) => rest
    | none => ""
  let path := if Text.startsWith rest "/" then String.ofList rest.toList.tail else rest
  if path = "" then ":memory:" else path

/-- A database to connect to. -/
structure Target where
  dialect : Dialect
  address : String
  deriving DecidableEq, Repr, Inhabited

def postgresqlSchemes : List String := ["postgresql", "postgresql+psycopg", "postgres"]

/-- The connection address of a server, the name of its adapter taken out. -/
def serverAddress (url : String) : String :=
  Text.replace url "postgresql+psycopg://" "postgresql://"

/-- The database an address leads to. -/
def Target.ofUrl (url : String) : Except Failure Target :=
  let scheme :=
    match Text.splitOnce? url schemeMark with
    | some (scheme, _) => scheme
    | none => url
  let scheme := Text.lower scheme
  if scheme = "sqlite" then .ok ⟨.sqlite, sqlitePath url⟩
  else if postgresqlSchemes.contains scheme then .ok ⟨.postgresql, serverAddress url⟩
  else .error (.configuration (.urlScheme url))

end Curator

/-!
# The environment: named settings of a process

Variables with their values, each name once.  The names that the chats look at are given here.
-/

namespace PairChat

/-- Variables with their values. -/
abbrev Environment : Type := List (String × String)

namespace Environment

variable (env : Environment)

/-- The value of a variable. -/
def value? (name : String) : Option String := env.lookup name

/-- The value of a variable that is set to some text. -/
def nonempty? (name : String) : Option String := (env.value? name).filter fun s => !s.isEmpty

/-- The environment with a variable set. -/
def set (name value : String) : Environment → Environment
  | [] => [(name, value)]
  | (n, v) :: env => if n = name then (n, value) :: env else (n, v) :: set name value env

/-- The environment without a variable. -/
def unset (name : String) : Environment := env.filter fun e => e.1 != name

/-! ### Names -/

/-- The directory of a local store. -/
def storePath : String := "DIRECTCHATS_PATH"

/-- The location of a homeserver. -/
def serverUrl : String := "DIRECTCHATS_URL"

/-- What an account shows to a homeserver. -/
def accessToken : String := "DIRECTCHATS_ACCESS_TOKEN"

/-- The account to act as on a local store. -/
def userId : String := "DIRECTCHATS_USER_ID"

/-- The name of the home server. -/
def homeServer : String := "DIRECTCHATS_HOME_SERVER"

/-- The least severity of what is logged. -/
def logLevel : String := "DIRECTCHATS_LOG_LEVEL"

/-- The directory of the configurations of all programs. -/
def configHome : String := "XDG_CONFIG_HOME"

/-- The home directory of the user. -/
def home : String := "HOME"

/-- All names. -/
def names : List String :=
  [storePath, serverUrl, accessToken, userId, homeServer, logLevel, configHome, home]

end Environment

end PairChat

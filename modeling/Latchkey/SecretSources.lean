/-
Where the signing secret comes from: one of two environment variables, or a file. If none of them
holds a usable secret, a fresh one is made and kept in the file, so that it is found the next time.

A variable is taken as it is, if it is text and not empty. The file may have white space around the
secret.
-/
import Latchkey.Digest.Bytes
import Latchkey.Text.Blank

namespace Latchkey

structure SecretSources where
  /-- The values of the variables, `none` for one that is not set; the first usable one counts. -/
  environment : List (Option Bytes)
  /-- The content of the file, if it is there and can be read. -/
  file : Option Bytes
  /-- Whether the file can be made and written. It can be read as soon as it has been: that a file
  is there which can be written but not read is left out of account. -/
  isWritable : Bool
deriving DecidableEq, Repr

namespace SecretSources

/-- The names of the environment variables. -/
def variableNames : List String := ["JWT_SECRET", "AUTH_SECRET"]

/-- The secret in a variable. -/
def ofVariable? (value : Option Bytes) : Option String :=
  value.bind fun bytes => bytes.toText?.filter fun s => !s.isEmpty

/-- The secret in the content of the file. -/
def ofFile? (content : Option Bytes) : Option String :=
  content.bind fun bytes => (bytes.toText?.map Text.trim).filter fun s => !s.isEmpty

/-- The secret that is there already. -/
def known? (s : SecretSources) : Option String :=
  (s.environment.findSome? ofVariable?).or (ofFile? s.file)

/-- The secret, which is `fresh` if there is none yet, and the sources afterwards. -/
def resolve (fresh : String) (s : SecretSources) : String × SecretSources :=
  match s.known? with
  | some secret => (secret, s)
  | none =>
    (fresh, if s.isWritable then { s with file := some (Bytes.ofString fresh) } else s)

/-! ## The place of the file -/

/-- The directory for data: the one that is asked for, if its path is absolute, or the usual one in
the home directory. -/
def dataDirectory (asked home : Option String) : String :=
  match asked.filter (·.startsWith "/"), home.filter fun h => !h.isEmpty with
  | some directory, _ => directory
  | none, some home => home ++ "/.local/share"
  | none, none => "."

/-- The directory of the file in a directory for data. -/
def directory (data : String) : String := data ++ "/nostalgix"

def fileName : String := "jwt-secret"

end SecretSources

end Latchkey

import ProxyConfig.Files.Path
import ProxyConfig.Text.Lossy

/-!
# Paths as the system has them

To the system a path is a list of bytes, which need not be those of a text.  A document is a text,
so a path that is written into it is read as one, with replacements where this is not possible.
-/

namespace ProxyConfig
namespace Files

/-- A path as bytes. -/
structure RawPath where
  bytes : List UInt8
deriving Repr, DecidableEq, Inhabited

namespace RawPath

/-- The path of a text. -/
def ofText (path : String) : RawPath :=
  ⟨Text.utf8Bytes path⟩

/-- A path inside a folder. -/
def join (dir : RawPath) (name : String) : RawPath :=
  if dir.bytes = [] then ofText name
  else if dir.bytes.getLast? = some 0x2F then ⟨dir.bytes ++ Text.utf8Bytes name⟩
  else ⟨dir.bytes ++ Text.utf8Bytes ("/" ++ name)⟩

/-- A path as a text. -/
def lossy (path : RawPath) : String :=
  Text.lossy path.bytes

end RawPath
end Files
end ProxyConfig

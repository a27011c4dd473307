import AffixSpeller.Text.Basic

/-!
# Flags

A word of a word list carries flags, which name the rule groups that apply to it. The grammar says
how the flags are run together behind the word.

## Main definitions

* `Flag`: the name of a rule group.
* `FlagEncoding`: how flags are run together.
* `FlagEncoding.decode`: the flags of a text.
-/

namespace AffixSpeller

/-- The name of a rule group. -/
abbrev Flag := Text

/-- How the flags behind a word are written. -/
inductive FlagEncoding where
  /-- Every character is a flag. -/
  | ascii
  /-- Every character is a flag, whatever its script. -/
  | utf8
  /-- Every two characters are a flag. -/
  | long
  /-- Flags are separated by commas. -/
  | num
  deriving DecidableEq, Repr

namespace FlagEncoding

/-- The name of the encoding in a grammar. -/
def name : FlagEncoding → Text
  | ascii => "ASCII".toList
  | utf8 => "UTF-8".toList
  | long => "long".toList
  | num => "num".toList

/-- The encoding of a name. -/
def ofName? (name : Text) : Option FlagEncoding :=
  [ascii, utf8, long, num].find? (·.name == name)

/-- The flags of two characters each; a character left over is dropped. -/
def pairs : Text → List Flag
  | c :: d :: rest => [c, d] :: pairs rest
  | _ => []

/-- The flags that a text runs together. -/
def decode : FlagEncoding → Text → List Flag
  | ascii, t | utf8, t => t.map ([·])
  | long, t => pairs t
  | num, t => ((t.splitOn ',').map Text.trim).filter (!·.isEmpty)

end FlagEncoding

/-- A name that is no flag encoding. -/
structure FlagEncodingError where
  name : Text
  deriving DecidableEq, Repr

/-- The text of the error. -/
def FlagEncodingError.message (e : FlagEncodingError) : String :=
  "unsupported flag type: " ++ String.ofList e.name

/-- The encoding of a name, or the name as an error. -/
def FlagEncoding.ofName (name : Text) : Except FlagEncodingError FlagEncoding :=
  match ofName? name with
  | some encoding => .ok encoding
  | none => .error ⟨name⟩

end AffixSpeller

import JoinPlan.Hash.Sha256
import JoinPlan.Pipeline.Basic

/-!
# Fingerprints

A fingerprint identifies a pipeline: it is the digest of an encoding in which nothing runs into
what follows.  Every text is preceded by its length in bytes and every part by a tag, and the
stages end at a tag that no stage begins with.
-/

namespace JoinPlan

/-! ### Encoding -/

namespace Encoding

/-- The bytes of a text. -/
def utf8 (text : String) : List UInt8 :=
  text.toByteArray.data.toList

/-- A text preceded by its length. -/
def framed (text : String) : List UInt8 :=
  Sha256.bigEndian 8 (utf8 text).length ++ utf8 text

/-- A truth value. -/
def flag (value : Bool) : UInt8 :=
  if value then 1 else 0

/-- What encodings begin with. -/
def heading : List UInt8 :=
  utf8 "pipefp:v2"

end Encoding

open Encoding

/-- The encoding of a stage's operand. -/
def Stage.encodedOperand : Stage → List UInt8
  | .select criteria => framed (Json.object criteria).text
  | .join lookup =>
    framed lookup.collection ++ framed lookup.localField ++ framed lookup.foreignField ++
      framed lookup.output
  | .unwind spec => framed spec.path ++ [flag spec.preserveEmpty]

/-- The encoding of a stage. -/
def Stage.encoding (stage : Stage) : List UInt8 :=
  framed stage.operator ++ stage.encodedOperand

/-- The encoding of a pipeline. -/
def Pipeline.encoding (pipeline : Pipeline) : List UInt8 :=
  heading ++ 1 :: framed pipeline.collection ++ 2 :: pipeline.stages.flatMap Stage.encoding ++
    [3, flag pipeline.allowDiskUse]

/-! ### Digest -/

/-- The digest of a pipeline's encoding. -/
structure Fingerprint where
  bytes : List UInt8
deriving DecidableEq, Repr

/-- The fingerprint of a pipeline. -/
def Pipeline.fingerprint (pipeline : Pipeline) : Fingerprint :=
  ⟨Sha256.digest pipeline.encoding⟩

/-- The two hexadecimal digits of each byte. -/
def Fingerprint.hex (fingerprint : Fingerprint) : String :=
  String.ofList (fingerprint.bytes.flatMap fun byte =>
    [Text.hexDigit (byte.toNat / 16), Text.hexDigit (byte.toNat % 16)])

end JoinPlan

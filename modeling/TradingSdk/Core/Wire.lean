import TradingSdk.Serde.Rmp

namespace TradingSdk

open Serde

abbrev OrderId := UInt64
abbrev MarketId := UInt32
abbrev ImpactMarketId := UInt32
abbrev Milliseconds := UInt64

/-- `Serialize` and `Deserialize` of the byte newtypes: a sequence on the wire, a byte scalar for
human-readable serializers, both accepted on input. -/
def newtypeBytes : ByteForm := ⟨false, true, true, false⟩

/-- A byte array or vector with derived implementations only. -/
def bareBytes : ByteForm := ⟨false, false, false, false⟩

/-- A bare vector behind `hint_capped_bytes`. -/
def hintBytes : ByteForm := ⟨false, false, true, false⟩

/-- Fields behind `serde_bytes`. -/
def serdeBytes : ByteForm := ⟨true, true, true, true⟩

abbrev Address := FixedBytes 20
abbrev Pubkey := FixedBytes 32
abbrev SolanaSignature := Bytes

def Address.default : Address := ⟨List.replicate 20 0, rfl⟩

def Address.schema : Schema Address := .fixedBytes 20 newtypeBytes
def Pubkey.schema : Schema Pubkey := .fixedBytes 32 newtypeBytes
def SolanaSignature.schema : Schema SolanaSignature := .byteVec newtypeBytes

def hintCappedBytes : Schema Bytes := .byteVec hintBytes
def hintCappedByteSeqs : Schema (List Bytes) := .vec hintCappedBytes

/-- The errors that the codec and the content hash return. -/
inductive ExecError where
  | decodeError (msg : String)
  | internalError (msg : String)
  | overflow
  deriving DecidableEq

/-- `map_err` on the result of the serializer. -/
def mapErr {α : Type} (f : String → ExecError) : Except String α → Except ExecError α
  | .ok a => .ok a
  | .error e => .error (f e)

end TradingSdk

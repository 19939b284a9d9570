/-
What the contract exchanges as JSON, and the boundary to `serde_json_wasm`.

Serialization is a function of the type's derive attributes and is written out:
the metadata's text is its six fields in order.  Deserialization is third-party
code with more freedom (white space, member order, which errors), so it enters the
model as a parameter, and the one law anything relies on is a named hypothesis.
-/
import IcaController.Lib.Json
import IcaController.Lib.Base64
import IcaController.Model.Types

namespace IcaController

/-! ### Handshake metadata -/

/-- `ibc::types::metadata::IcaMetadata`. -/
structure IcaMetadata where
  version : String
  controllerConnectionId : String
  hostConnectionId : String
  address : String
  encoding : TxEncoding
  txType : String
  deriving DecidableEq, Repr

/-- The serde names of the encodings. -/
def TxEncoding.rename : TxEncoding → String
  | .protobuf => "proto3"
  | .proto3Json => "proto3json"

namespace IcaMetadata

def toJson (m : IcaMetadata) : Json :=
  .obj [("version", .str m.version),
    ("controller_connection_id", .str m.controllerConnectionId),
    ("host_connection_id", .str m.hostConnectionId),
    ("address", .str m.address),
    ("encoding", .str m.encoding.rename),
    ("tx_type", .str m.txType)]

/-- `IcaMetadata::to_string`. -/
def toString (m : IcaMetadata) : String := String.ofList m.toJson.print

end IcaMetadata

/-! ### Acknowledgements -/

/-- `ibc::types::packet::acknowledgement::AcknowledgementData`. -/
inductive AcknowledgementData where
  | result (data : Binary)
  | error (message : String)
  deriving DecidableEq, Repr

/-! ### The deserializers

Their code is not part of the repository, so they are a parameter of the model, and a
result that needs a law of them names it.
-/

/-- `serde_json_wasm::from_str` and `cosmwasm_std::from_binary`, at the types used. -/
structure SerdeJsonWasm where
  /-- `from_str::<IcaMetadata>`; the contract drops the error. -/
  fromStr : String → Option IcaMetadata
  /-- `from_binary::<AcknowledgementData>`. -/
  fromBinary : Binary → Except StdError AcknowledgementData

/-- `from_str` inverts `to_string` on metadata. -/
def SerdeJsonWasm.InvertsToString (serde : SerdeJsonWasm) : Prop :=
  ∀ m : IcaMetadata, serde.fromStr m.toString = some m

/-! ### A reader of the format

The derives deny unknown members, and a missing or a repeated one is an error, so
an accepted object has exactly the declared members.  The reader below follows
them; it shows the law is satisfiable, and stands in for the deserializers where a
concrete run is wanted.
-/

/-- A member that must be a string. -/
def stringMember (name : String) (members : List (String × Json)) : Option String :=
  match Json.member? name members with
  | some (.str s) => some s
  | _ => none

def TxEncoding.ofName : String → Option TxEncoding
  | "proto3" => some .protobuf
  | "proto3json" => some .proto3Json
  | _ => none

def IcaMetadata.ofJson : Json → Option IcaMetadata
  | .obj members =>
      if members.length = 6 then do
        return {
          version := ← stringMember "version" members
          controllerConnectionId := ← stringMember "controller_connection_id" members
          hostConnectionId := ← stringMember "host_connection_id" members
          address := ← stringMember "address" members
          encoding := ← TxEncoding.ofName (← stringMember "encoding" members)
          txType := ← stringMember "tx_type" members }
      else none
  | _ => none

def AcknowledgementData.ofJson : Json → Option AcknowledgementData
  | .obj [("result", .str text)] => do return .result (← Base64.decode text.toList)
  | .obj [("error", .str message)] => some (.error message)
  | _ => none

/-- Read bytes as the UTF-8 of a JSON text. -/
def jsonOfBinary (b : Binary) : Option Json := do
  let text ← String.fromUTF8? b.toByteArray
  Json.parse text.toList

/-- The deserializers, as readers of the declared format. -/
def jsonReader : SerdeJsonWasm where
  fromStr s := (Json.parse s.toList).bind IcaMetadata.ofJson
  fromBinary b :=
    match (jsonOfBinary b).bind AcknowledgementData.ofJson with
    | some ack => .ok ack
    | none => .error (.parseErr "AcknowledgementData" "Invalid type")

end IcaController

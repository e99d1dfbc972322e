import Colloquy.Document.Decoding
import Colloquy.Session

/-! What sessions and collaborators tell each other, as documents. -/
namespace Colloquy

def Document.float32? : Document → Decoded Float32
  | .int n => return (if n < 0 then (Int64.ofInt n).toFloat32 else n.toNat.toUInt64.toFloat32)
  | .float x => return x.toFloat32
  | _ => throw .kind

namespace Classification

def decode (d : Document) : Decoded Classification := do
  let f ← d.fields ["intent", "confidence", "extracted_data"]
  return {
    intent := ← f.required "intent" Document.text?
    confidence := ← f.withDefault "confidence" 1 Document.float32?
    extracted := ← f.withDefault "extracted_data" .empty Document.data? }

end Classification

namespace ClassifierContext

def encode (c : ClassifierContext) : Document :=
  .table ([
    ("conversation_id", .text c.conversation),
    ("current_state", .text c.current)]
    ++ (c.lastAction.map fun a => ("last_action", Document.text a)).toList ++ [
    ("turn", .ofNat c.turn),
    ("allowed_intents", .ofTexts c.allowedIntents)])

end ClassifierContext

namespace ResponseRequest

def encode (r : ResponseRequest) : Document :=
  .table [
    ("conversation_id", .text r.conversation),
    ("action", .text r.action),
    ("state", .text r.state),
    ("goal", .text r.goal),
    ("missing_fields", .ofTexts r.missing),
    ("collected_data", .ofData r.data),
    ("user_text", .text r.text)]

end ResponseRequest

end Colloquy

import MapGate.Access.Decode
import MapGate.Auth.Decode
import MapGate.Catalog.Decode
import MapGate.Config.Decode
import MapGate.Proofs.Auth.WrittenAddress
import MapGate.Proofs.Document.Written

/-!
Predicates, catalog descriptors, callers, events and configuration layers are read back from the
documents they are written as. A kind of one's own stays apart from a built-in one of its name, and
a field that is empty comes back from `null` as from being left out. A predicate may be nested to
any depth; only the reader of its text sets a limit to that.
-/
namespace MapGate

open Undoes

theorem textOrNull : Undoes (Document.nullable? Document.text?) (Json.optional .ofString) :=
  .nullable .text fun _ => nofun

theorem flagOrNull : Undoes (Document.nullable? Document.flag?) (Json.optional .bool) :=
  .nullable .flag fun _ => nofun

theorem textsOrNull : Undoes (Document.nullable? Document.texts?) (Json.optional .strings) :=
  .nullable .texts fun _ => nofun

namespace Predicate

mutual

theorem ofJson?_toJson : (p : Predicate) → ofJson? p.toJson = some p
  | always => rfl
  | never => rfl
  | expr _ => by simp [toJson, Json.record, Json.ofString, ofJson?, ofMember?]
  | conj ps => by simp [toJson, Json.record, ofJson?, ofMember?, ofParts?_partsToJson ps]

theorem ofParts?_partsToJson : (ps : List Predicate) → ofParts? (partsToJson ps) = some ps
  | [] => rfl
  | p :: rest => by rw [partsToJson, ofParts?, ofJson?_toJson p, ofParts?_partsToJson rest]

end

mutual

theorem plain_toJson : (p : Predicate) → p.toJson.Plain
  | always => .text _
  | never => .text _
  | expr s => .record (by simpa using .text s)
  | conj ps => .record (by simpa using .array (plain_partsToJson ps))

theorem plain_partsToJson : (ps : List Predicate) → ∀ j ∈ partsToJson ps, j.Plain
  | [] => nofun
  | p :: rest => List.forall_mem_cons.mpr ⟨plain_toJson p, plain_partsToJson rest⟩

end

theorem undoes : Undoes ofJson? toJson := ⟨plain_toJson, ofJson?_toJson⟩

theorem parse?_render {p : Predicate} (shallow : p.toJson.depth < nestingLimit) :
    parse? p.toJson.render = some p := by
  rw [parse?, Json.parse?_render (plain_toJson p)]
  simp [shallow, ofJson?_toJson p]

end Predicate

namespace Catalog

theorem ResourceKind.undoes : Undoes ofJson? toJson where
  plain
    | other name => .record (by simpa using .text name)
    | featureType | coverage | wmsLayer | wmtsLayer => .text _
  document k := by cases k <;> rfl

example : (ResourceKind.other "coverage").toJson.render = "\x7b\"other\":\"coverage\"\x7d" ∧
    ResourceKind.coverage.toJson.render = "\"coverage\"" := by decide

theorem Resource.undoes : Undoes ofJson? toJson := by
  apply Undoes.record
  case distinct => decide
  case ordered => exact fun _ => .refl _
  case plain => simp [text.plain, ResourceKind.undoes.plain]
  case fields =>
    simp [Record.required?, Record.field?, text.document, ResourceKind.undoes.document]

theorem Layer.undoes : Undoes ofJson? toJson := by
  apply Undoes.record
  case distinct => decide
  case ordered => exact fun _ => .refl _
  case plain => simp [text.plain, Resource.undoes.plain]
  case fields => simp [Record.required?, Record.field?, text.document, Resource.undoes.document]

theorem Style.undoes : Undoes ofJson? toJson := by
  apply Undoes.record
  case distinct => decide
  case ordered => exact fun _ => .refl _
  case plain => simp [text.plain, textOrNull.plain]
  case fields =>
    simp [Record.required?, Record.optional?, Record.field?, text.document, textOrNull.document]

theorem LayerGroup.undoes : Undoes ofJson? toJson := by
  apply Undoes.record
  case distinct => decide
  case ordered => exact fun _ => .refl _
  case plain => simp [text.plain, textOrNull.plain, texts.plain]
  case fields =>
    simp [Record.required?, Record.optional?, Record.field?, text.document, textOrNull.document,
      texts.document]

end Catalog

theorem Caller.undoes : Undoes ofJson? toJson := by
  apply Undoes.record
  case distinct => decide
  case ordered => exact fun _ => .refl _
  case plain => simp [textOrNull.plain, texts.plain]
  case fields =>
    simp [Record.required?, Record.optional?, Record.field?, textOrNull.document, texts.document]

theorem Address.undoes : Undoes ofJson? toJson where
  plain a := .text a.text
  document := parse?_text

theorem EventKind.undoes : Undoes ofJson? toJson where
  plain k := .text k.text
  document k := by cases k <;> rfl

theorem AuthEvent.undoes : Undoes ofJson? toJson := by
  have source := nullable Address.undoes fun _ => nofun
  apply Undoes.record
  case distinct => decide
  case ordered => exact fun _ => .refl _
  case plain => simp [EventKind.undoes.plain, textOrNull.plain, source.plain]
  case fields =>
    simp [Record.required?, Record.optional?, Record.field?, EventKind.undoes.document,
      textOrNull.document, source.document]

theorem FilterChain.undoes : Undoes ofDocument? toJson := by
  have methods (ms : List String) := textsOrNull.document (some ms)
  have role (name : String) := textOrNull.document (some name)
  simp only [Json.optional] at methods role
  apply Undoes.record
  case distinct => decide
  -- The two fields that are left out when they are empty may each be there or not.
  case ordered =>
    rintro ⟨_, _, methods, _, _, _, _, role, _⟩
    cases methods <;> cases role <;>
      simp only [List.map_append, List.map_cons, List.map_nil] <;> decide
  case plain =>
    rintro ⟨_, _, methods, _, _, _, _, role, _⟩
    cases methods <;> cases role <;> simp [text.plain, texts.plain, flag.plain]
  case fields =>
    rintro ⟨_, _, methods, _, _, _, _, role, _⟩
    cases methods <;> cases role <;>
      simp [Record.required?, Record.defaulted?, Record.field?, text.document, texts.document,
        flag.document, *]

theorem BruteForceLayer.undoes : Undoes ofDocument? toJson := by
  have delay := nullable word64 fun _ => nofun
  have count := nullable word32 fun _ => nofun
  apply Undoes.record
  case distinct => decide
  case ordered => exact fun _ => .refl _
  case plain => simp [flagOrNull.plain, delay.plain, count.plain, textsOrNull.plain]
  case fields =>
    simp [Record.optional?, Record.field?, flagOrNull.document, delay.document, count.document,
      textsOrNull.document]

theorem LoggingLayer.undoes : Undoes ofDocument? toJson := by
  apply Undoes.record
  case distinct => decide
  case ordered => exact fun _ => .refl _
  case plain => simp [textOrNull.plain, flagOrNull.plain]
  case fields => simp [Record.optional?, Record.field?, textOrNull.document, flagOrNull.document]

theorem ConfigLayer.undoes : Undoes ofDocument? toJson := by
  have bruteForce := nullable BruteForceLayer.undoes fun _ => nofun
  have logging := nullable LoggingLayer.undoes fun _ => nofun
  have chains := nullable (list FilterChain.undoes) fun _ => nofun
  apply Undoes.record
  case distinct => decide
  case ordered => exact fun _ => .refl _
  case plain => simp [bruteForce.plain, logging.plain, chains.plain]
  case fields =>
    simp [Record.optional?, Record.field?, bruteForce.document, logging.document, chains.document]

/-- Every written document is read back. -/
structure DocumentsReadBack : Prop where
  predicate : ReadsBack Predicate.toJson Predicate.ofJson?
  resourceKind : ReadsBack Catalog.ResourceKind.toJson Catalog.ResourceKind.ofJson?
  layer : ReadsBack Catalog.Layer.toJson Catalog.Layer.ofJson?
  layerGroup : ReadsBack Catalog.LayerGroup.toJson Catalog.LayerGroup.ofJson?
  style : ReadsBack Catalog.Style.toJson Catalog.Style.ofJson?
  caller : ReadsBack Caller.toJson Caller.ofJson?
  authEvent : ReadsBack AuthEvent.toJson AuthEvent.ofJson?
  filterChain : ReadsBack FilterChain.toJson FilterChain.ofDocument?
  configLayer : ReadsBack ConfigLayer.toJson ConfigLayer.ofDocument?

theorem documents_readBack : DocumentsReadBack where
  predicate := Predicate.undoes.readsBack
  resourceKind := Catalog.ResourceKind.undoes.readsBack
  layer := Catalog.Layer.undoes.readsBack
  layerGroup := Catalog.LayerGroup.undoes.readsBack
  style := Catalog.Style.undoes.readsBack
  caller := Caller.undoes.readsBack
  authEvent := AuthEvent.undoes.readsBack
  filterChain := FilterChain.undoes.readsBack
  configLayer := ConfigLayer.undoes.readsBack

end MapGate

import Postboard.Post.Json
import Postboard.Snapshot

/-! The metadata of a snapshot in JSON. -/
namespace Postboard.Metadata

open Json

def toJson (m : Metadata) : Value := .record [
  ("record_count", .ofNat m.count.toNat),
  ("created_at", m.createdAt.toJson),
  ("earliest", .ofOption Instant.toJson m.earliest),
  ("latest", .ofOption Instant.toJson m.latest),
  ("version", .ofString m.version)]

def ofJson? (v : Value) : Option Metadata := do
  match ← slots? [["record_count"], ["created_at"], ["earliest"], ["latest"], ["version"]] v with
  | [count, createdAt, earliest, latest, version] =>
    return {
      count := ← count.required Value.natural?
      createdAt := ← createdAt.required Instant.ofJson?
      earliest := ← earliest.orMissing none (Value.option? Instant.ofJson?)
      latest := ← latest.orMissing none (Value.option? Instant.ofJson?)
      version := ← version.required Value.string? }
  | _ => none

end Postboard.Metadata

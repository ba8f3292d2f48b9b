import Postboard.Json.Fields
import Postboard.Time.Timestamp

/-! Instants in JSON: a string that the lenient reader takes. -/
namespace Postboard.Instant

open Json

def toJson (t : Instant) : Value := .ofString t.text

def ofJson? (v : Value) : Option Instant := v.string?.bind fun s => Time.readLenient? s.toList

end Postboard.Instant

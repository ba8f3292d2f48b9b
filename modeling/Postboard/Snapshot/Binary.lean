import Postboard.Gzip.Bits
import Postboard.Snapshot
import Postboard.Time.Timestamp

/-! The binary form of posts and snapshots. Numbers are short if they are small, texts and lists state
their length, and an optional value has a byte that says whether it is there. A reader takes the bytes
before it and gives what it read with the bytes after it. -/
namespace Postboard.Binary

open Gzip

abbrev Reader (α : Type) := Bytes → Option (α × Bytes)

def writeNumber (n : Nat) : Bytes :=
  if n < 251 then [UInt8.ofNat n]
  else if n < UInt16.size then 251 :: littleEndian 2 n
  else if n < UInt32.size then 252 :: littleEndian 4 n
  else 253 :: littleEndian 8 n

def readWide (width : Nat) (s : Bytes) : Option (Nat × Bytes) :=
  (splitExactly width s).map fun (bytes, rest) => (ofLittleEndian bytes, rest)

def readNumber : Reader Nat
  | [] => none
  | b :: rest =>
    if b < 251 then some (b.toNat, rest)
    else if b = 251 then readWide 2 rest
    else if b = 252 then readWide 4 rest
    else if b = 253 then readWide 8 rest
    else none

def writeCount (n : UInt64) : Bytes := writeNumber n.toNat

def readCount : Reader UInt64 := fun s => (readNumber s).map fun (n, rest) => (UInt64.ofNat n, rest)

def writeText (s : String) : Bytes :=
  let bytes := s.toUTF8.data.toList
  writeNumber bytes.length ++ bytes

def readText : Reader String := fun s => do
  let (length, s) ← readNumber s
  let (bytes, s) ← splitExactly length s
  return (← String.fromUTF8? bytes.toByteArray, s)

def writeOption (write : α → Bytes) : Option α → Bytes
  | none => [0]
  | some a => 1 :: write a

def readOption (read : Reader α) : Reader (Option α)
  | 0 :: rest => some (none, rest)
  | 1 :: rest => (read rest).map fun (a, rest) => (some a, rest)
  | _ => none

def writeList (write : α → Bytes) (items : List α) : Bytes :=
  writeNumber items.length ++ items.flatMap write

def readItems (read : Reader α) : Nat → Reader (List α)
  | 0, s => some ([], s)
  | n + 1, s => do
    let (a, s) ← read s
    let (rest, s) ← readItems read n s
    return (a :: rest, s)

def readList (read : Reader α) : Reader (List α) := fun s => do
  let (n, s) ← readNumber s
  readItems read n s

def writeInstant (t : Instant) : Bytes := writeText t.text

def readInstant : Reader Instant := fun s => do
  let (text, s) ← readText s
  return (← Time.readLenient? text.toList, s)

def writeSentiment (s : Option Sentiment) : Bytes := writeOption writeText (s.map (·.name))

def readSentiment : Reader (Option Sentiment) := fun s => do
  let (label, s) ← readOption readText s
  return (label.bind Sentiment.ofLabel?, s)

def writePost (p : Post) : Bytes :=
  writeText p.id ++ writeText p.text ++ writeText p.username ++ writeOption writeText p.url ++
  writeCount p.likes ++ writeCount p.replies ++ writeCount p.retweets ++
  writeSentiment p.sentiment ++ writeInstant p.createdAt ++ writeOption writeText p.district

def readPost : Reader Post := fun s => do
  let (id, s) ← readText s
  let (text, s) ← readText s
  let (username, s) ← readText s
  let (url, s) ← readOption readText s
  let (likes, s) ← readCount s
  let (replies, s) ← readCount s
  let (retweets, s) ← readCount s
  let (sentiment, s) ← readSentiment s
  let (createdAt, s) ← readInstant s
  let (district, s) ← readOption readText s
  return ({ id, text, username, url, likes, replies, retweets, sentiment, createdAt, district }, s)

def writeMetadata (m : Metadata) : Bytes :=
  writeCount m.count ++ writeInstant m.createdAt ++ writeOption writeInstant m.earliest ++
  writeOption writeInstant m.latest ++ writeText m.version

def readMetadata : Reader Metadata := fun s => do
  let (count, s) ← readCount s
  let (createdAt, s) ← readInstant s
  let (earliest, s) ← readOption readInstant s
  let (latest, s) ← readOption readInstant s
  let (version, s) ← readText s
  return ({ count, createdAt, earliest, latest, version }, s)

def writePosts (posts : List Post) : Bytes := writeList writePost posts

def readPosts : Reader (List Post) := readList readPost

def writeSnapshot (s : Snapshot) : Bytes := writeMetadata s.metadata ++ writePosts s.posts

def readSnapshot : Reader Snapshot := fun s => do
  let (metadata, s) ← readMetadata s
  let (posts, s) ← readPosts s
  return (⟨metadata, posts⟩, s)

end Postboard.Binary

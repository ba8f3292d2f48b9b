import Postboard.Gzip.Member
import Postboard.Snapshot.Binary
import Postboard.Store
import Postboard.Store.Error

/-! The container of a snapshot file: a header of eleven bytes, then the binary form as one gzip member.
The header states a version and the size of the binary form. -/
namespace Postboard.Container

open Gzip

structure Version where
  major : UInt8
  minor : UInt8
  deriving DecidableEq

structure Header where
  version : Version
  size : UInt32
  deriving DecidableEq

inductive Error where
  | tooShort (length : Nat)
  | foreign
  | unsupported (version : Version)
  | tooLarge (length : Nat)
  | wrongSize (expected actual : Nat)
  | damaged
  | undecodable
  deriving DecidableEq

def Error.message : Error → String
  | tooShort length => "数据太短，无法解析: " ++ length.repr ++ " 字节"
  | foreign => "无效的文件格式：魔数不匹配"
  | unsupported v => "不支持的版本: " ++ v.major.toNat.repr ++ "." ++ v.minor.toNat.repr
  | tooLarge length => "快照过大: " ++ length.repr ++ " 字节"
  | wrongSize expected actual =>
    "解压后数据大小不匹配: 期望 " ++ expected.repr ++ " 字节, 实际 " ++ actual.repr ++ " 字节"
  | damaged => "gzip"
  | undecodable => "反序列化失败"

def magic : Bytes := [0x54, 0x57, 0x53, 0x4e, 0x50]

def current : Version := ⟨1, 0⟩

def headerLength : Nat := 11

def readHeader (data : Bytes) (highest : UInt8) : Except Error Header :=
  if data.length < headerLength then .error (.tooShort data.length)
  else if data.take 5 ≠ magic then .error .foreign
  else
    match data.drop 5 with
    | major :: minor :: rest =>
      if highest < major then .error (.unsupported ⟨major, minor⟩)
      else .ok ⟨⟨major, minor⟩, UInt32.ofNat (ofLittleEndian (rest.take 4))⟩
    | _ => .error (.tooShort data.length)

def writeHeader (h : Header) : Bytes :=
  magic ++ [h.version.major, h.version.minor] ++ littleEndian 4 h.size.toNat

def packWith (compress : Bytes → Bytes) (binary : Bytes) (version : Version) : Except Error Bytes :=
  if binary.length < UInt32.size then
    .ok (writeHeader ⟨version, UInt32.ofNat binary.length⟩ ++ compress binary)
  else .error (.tooLarge binary.length)

def pack : Bytes → Version → Except Error Bytes := packWith encode

/-- What a container holds. The stated size is not trusted: one byte more than it is asked for, so that
a member that is too long shows. -/
def unpack (data : Bytes) (highest : UInt8) (read : Binary.Reader α) : Except Error α := do
  let header ← readHeader data highest
  let size := header.size.toNat
  match decodeUpTo (size + 1) (data.drop headerLength) with
  | none => throw .damaged
  | some binary =>
    if binary.length ≠ size then throw (.wrongSize size binary.length)
    else
      match read binary with
      | some (a, _) => return a
      | none => throw .undecodable

def validate (data : Bytes) : Except Error Version := (readHeader data current.major).map (·.version)

def writeSnapshot (s : Snapshot) : Except Error Bytes := pack (Binary.writeSnapshot s) current

def readSnapshot (data : Bytes) : Except Error Snapshot := unpack data current.major Binary.readSnapshot

end Container

def Store.ofSnapshot (data : Gzip.Bytes) : Except StoreError Store :=
  match Container.readSnapshot data with
  | .ok snapshot => .ok (.ofList snapshot.posts)
  | .error e => .error (.undecodable ("解析快照失败: " ++ e.message))

end Postboard

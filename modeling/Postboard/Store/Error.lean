/-! Why a source of posts gives no page. -/
namespace Postboard

inductive StoreError where
  | unavailable (message : String)
  | rejected (status : UInt16) (message : String)
  | undecodable (message : String)
  | noSnapshot
  deriving DecidableEq

def StoreError.message : StoreError → String
  | unavailable m => "数据源不可用: " ++ m
  | rejected status m => "查询被拒绝 (" ++ status.toNat.repr ++ "): " ++ m
  | undecodable m => "响应解析失败: " ++ m
  | noSnapshot => "快照未加载"

end Postboard

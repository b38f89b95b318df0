namespace NestedTx

inductive CacheError
  | backend (reason : String)
  | invalidKey (reason : String)
deriving DecidableEq, Repr

def CacheError.message : CacheError → String
  | backend reason => "cache backend error: " ++ reason
  | invalidKey reason => "invalid cache key: " ++ reason

end NestedTx

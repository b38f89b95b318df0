namespace NestedTx

inductive Status
  | pending
  | committed
  | rolledBack
  | errored
deriving DecidableEq, Repr, Inhabited

namespace Status

def name : Status → String
  | pending => "pending"
  | committed => "committed"
  | rolledBack => "rolled back"
  | errored => "errored"

def isPending (status : Status) : Bool := status == pending

end Status

end NestedTx

import Kanban.Text.Order
import Kanban.Trouble

namespace Kanban.Tree

def numberLess (left right : Tree) : Bool :=
  match left, right with
  | real x, real y => x < y
  | x, y =>
      match x.fraction?, y.fraction? with
      | some (a, b), some (c, d) => a * d < c * b
      | _, _ => false

mutual

def less : Tree → Tree → Except Misuse Bool
  | text s, text t => .ok !Text.atMost t s
  | list items, list others => itemsLess items others
  | left, right =>
      if left.isNumber && right.isNumber then .ok (numberLess left right) else .error .wrongKind

def itemsLess : List Tree → List Tree → Except Misuse Bool
  | [], others => .ok !others.isEmpty
  | _ :: _, [] => .ok false
  | item :: items, other :: others =>
      if item.same other then itemsLess items others else item.less other

end

end Kanban.Tree

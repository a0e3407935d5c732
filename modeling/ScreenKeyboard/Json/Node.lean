import ScreenKeyboard.Json.Token
import ScreenKeyboard.Json.Value
/-!
# JSON texts as trees

A node is a JSON value together with the lines of its parts.  Text that is no JSON gives a tree too:
the fault stands in it at the place where it was met, and what comes after is missing.  So whoever
reads a value from a tree in the order of the text meets the faults of the text and the faults of
the value in the order in which they occur, and reports the first.

The tree is built from the tokens by a machine that keeps the lists and objects that are open on a
stack, and whose state says what may come next.
-/
namespace ScreenKeyboard.Json

/-! ## Trees -/

inductive Ending where
  | closed (line : Nat)
  | broken (fault : Fault)

/-- An item of a list, and the line that reading has reached after it, past a comma. -/
structure Item (α : Type) where
  value : α
  after : Nat

/-- A member of an object: the key with its line, the line of what follows the key, the value, and
the line of what follows the value. -/
structure Member (α : Type) where
  line : Nat
  key : String
  keyEnd : Nat
  value : α
  after : Nat

/-- A value as it stands in a text.  A value that is `broken` has nothing that can be kept but the
character it starts with, if it has one. -/
inductive Node where
  | scalar (line : Nat) (value : Scalar)
  | list (line : Nat) (items : List (Item Node)) (ending : Ending)
  | object (line : Nat) (members : List (Member Node)) (ending : Ending)
  | broken (line : Nat) (lead : Option Char) (fault : Fault)

structure Document where
  root : Node
  trailing : Option Fault

namespace Node

def line : Node → Nat
  | .scalar line _ => line
  | .list line _ _ => line
  | .object line _ _ => line
  | .broken line _ _ => line

/-! ## The first fault -/

def endingFault? : Ending → Option Fault
  | .closed _ => none
  | .broken fault => some fault

mutual

def fault? : Node → Option Fault
  | .scalar _ _ => none
  | .list _ items ending => (itemsFault? items).or (endingFault? ending)
  | .object _ members ending => (membersFault? members).or (endingFault? ending)
  | .broken _ _ fault => some fault

def itemsFault? : List (Item Node) → Option Fault
  | [] => none
  | ⟨value, _⟩ :: items => (fault? value).or (itemsFault? items)

def membersFault? : List (Member Node) → Option Fault
  | [] => none
  | ⟨_, _, _, value, _⟩ :: members => (fault? value).or (membersFault? members)

end

/-! ## Values as trees -/

mutual

/-- The tree of a value, as if all of it stood on one line. -/
def ofJson : Json → Node
  | .null => .scalar 1 .null
  | .bool b => .scalar 1 (.bool b)
  | .int n => .scalar 1 (.int n)
  | .text s => .scalar 1 (.text s)
  | .list items => .list 1 (ofItems items) (.closed 1)
  | .object members => .object 1 (ofMembers members) (.closed 1)

def ofItems : List Json → List (Item Node)
  | [] => []
  | x :: xs => ⟨ofJson x, 1⟩ :: ofItems xs

def ofMembers : List (String × Json) → List (Member Node)
  | [] => []
  | (key, x) :: rest => ⟨1, key, 1, ofJson x, 1⟩ :: ofMembers rest

end

/-! ## Building -/

/-- A list or an object that waits for one of its values; what it has is there last first. -/
inductive Frame where
  | list (line : Nat) (done : List (Item Node))
  | member (line : Nat) (done : List (Member Node)) (keyLine : Nat) (key : String) (keyEnd : Nat)

inductive Expect where
  | value
  | item (line : Nat) (done : List (Item Node))
  | listRest (line : Nat) (done : List (Item Node))
  | firstKey (line : Nat)
  | nextKey (line : Nat) (done : List (Member Node))
  | colon (line : Nat) (done : List (Member Node)) (keyLine : Nat) (key : String)
  | objectRest (line : Nat) (done : List (Member Node))
  | nothing (root : Node)

def maxOpen : Nat := 127

def nextLine : List Token → Nat
  | [] => 0
  | t :: _ => t.line

def lineAfterComma : List Token → Nat
  | ⟨_, .comma⟩ :: t :: _ => t.line
  | ts => nextLine ts

/-- The tree of a text that breaks off, with all that is open around the place. -/
def abandon (fault : Fault) (node : Node) : List Frame → Document
  | [] => ⟨node, none⟩
  | .list line done :: stack =>
    abandon fault (.list line (⟨node, 0⟩ :: done).reverse (.broken fault)) stack
  | .member line done keyLine key keyEnd :: stack =>
    abandon fault (.object line (⟨keyLine, key, keyEnd, node, 0⟩ :: done).reverse (.broken fault))
      stack

def put (node : Node) (rest : List Token) : List Frame → Expect × List Frame
  | [] => (.nothing node, [])
  | .list line done :: stack => (.listRest line (⟨node, lineAfterComma rest⟩ :: done), stack)
  | .member line done keyLine key keyEnd :: stack =>
    (.objectRest line (⟨keyLine, key, keyEnd, node, nextLine rest⟩ :: done), stack)

def ofToken : Token → Node
  | ⟨line, .scalar value⟩ => .scalar line value
  | ⟨line, .openList⟩ => .list line [] (.broken ⟨.tooDeep, some line⟩)
  | ⟨line, .openObject⟩ => .object line [] (.broken ⟨.tooDeep, some line⟩)
  | ⟨line, .bad lead fault⟩ => .broken line (some lead) fault
  | ⟨line, .stop⟩ => .broken line none ⟨.endsIn .value, some line⟩
  | ⟨line, _⟩ => .broken line none ⟨.noValue, some line⟩

def startValue (t : Token) (rest : List Token) (stack : List Frame) :
    Except Document (Expect × List Frame) :=
  match t.lexeme with
  | .scalar value => .ok (put (.scalar t.line value) rest stack)
  | .openList =>
    if stack.length < maxOpen then .ok (.item t.line [], stack)
    else .error (abandon ⟨.tooDeep, some t.line⟩ (ofToken t) stack)
  | .openObject =>
    if stack.length < maxOpen then .ok (.firstKey t.line, stack)
    else .error (abandon ⟨.tooDeep, some t.line⟩ (ofToken t) stack)
  | .bad _ fault => .error (abandon fault (ofToken t) stack)
  | .stop => .error (abandon ⟨.endsIn .value, some t.line⟩ (ofToken t) stack)
  | _ => .error (abandon ⟨.noValue, some t.line⟩ (ofToken t) stack)

def breakList (line : Nat) (done : List (Item Node)) (fault : Fault) (stack : List Frame) :
    Document :=
  abandon fault (.list line done.reverse (.broken fault)) stack

def breakObject (line : Nat) (done : List (Member Node)) (fault : Fault) (stack : List Frame) :
    Document :=
  abandon fault (.object line done.reverse (.broken fault)) stack

def step (expect : Expect) (stack : List Frame) (t : Token) (rest : List Token) :
    Except Document (Expect × List Frame) :=
  match expect with
  | .value => startValue t rest stack
  | .item line done =>
    match t.lexeme, done with
    | .closeList, [] => .ok (put (.list line [] (.closed t.line)) rest stack)
    | .closeList, _ => .error (breakList line done ⟨.trailingComma, some t.line⟩ stack)
    | .stop, [] => .error (breakList line [] ⟨.endsIn .list, some t.line⟩ stack)
    | _, _ => startValue t rest (.list line done :: stack)
  | .listRest line done =>
    match t.lexeme with
    | .comma => .ok (.item line done, stack)
    | .closeList => .ok (put (.list line done.reverse (.closed t.line)) rest stack)
    | .stop => .error (breakList line done ⟨.endsIn .list, some t.line⟩ stack)
    | _ => .error (breakList line done ⟨.noCommaInList, some t.line⟩ stack)
  | .firstKey line =>
    match t.lexeme with
    | .scalar (.text key) => .ok (.colon line [] t.line key, stack)
    | .closeObject => .ok (put (.object line [] (.closed t.line)) rest stack)
    | .bad '"' fault => .error (breakObject line [] fault stack)
    | .stop => .error (breakObject line [] ⟨.endsIn .object, some t.line⟩ stack)
    | _ => .error (breakObject line [] ⟨.keyNotText, some t.line⟩ stack)
  | .nextKey line done =>
    match t.lexeme with
    | .scalar (.text key) => .ok (.colon line done t.line key, stack)
    | .closeObject => .error (breakObject line done ⟨.trailingComma, some t.line⟩ stack)
    | .bad '"' fault => .error (breakObject line done fault stack)
    | .stop => .error (breakObject line done ⟨.endsIn .value, some t.line⟩ stack)
    | _ => .error (breakObject line done ⟨.keyNotText, some t.line⟩ stack)
  | .colon line done keyLine key =>
    let frame := Frame.member line done keyLine key t.line
    match t.lexeme with
    | .colon => .ok (.value, frame :: stack)
    | .stop =>
      .error (abandon ⟨.endsIn .object, some t.line⟩
        (.broken t.line none ⟨.endsIn .object, some t.line⟩) (frame :: stack))
    | _ =>
      .error (abandon ⟨.noColon, some t.line⟩
        (.broken t.line none ⟨.noColon, some t.line⟩) (frame :: stack))
  | .objectRest line done =>
    match t.lexeme with
    | .comma => .ok (.nextKey line done, stack)
    | .closeObject => .ok (put (.object line done.reverse (.closed t.line)) rest stack)
    | .stop => .error (breakObject line done ⟨.endsIn .object, some t.line⟩ stack)
    | _ => .error (breakObject line done ⟨.noCommaInObject, some t.line⟩ stack)
  | .nothing root =>
    match t.lexeme with
    | .stop => .error ⟨root, none⟩
    | _ => .error ⟨root, some ⟨.trailingText, some t.line⟩⟩

def build (expect : Expect) (stack : List Frame) : List Token → Document
  | [] => ⟨.broken 0 none ⟨.endsIn .value, none⟩, none⟩
  | t :: rest =>
    match step expect stack t rest with
    | .ok (expect, stack) => build expect stack rest
    | .error document => document

end Node

def Document.ofText (text : String) : Document := Node.build .value [] (tokens 1 text.toList)

def Document.fault? (document : Document) : Option Fault :=
  document.root.fault?.or document.trailing

end ScreenKeyboard.Json

import QueryGate.Declaration.Member
import QueryGate.Declaration.Token.Source

/-!
# Attributes of declarations

An attribute is given by the texts it is written with: a path that stands alone,
is assigned a value, or is followed by a list of attributes of the same three
forms. The texts are read together as tokens, so it is the tokens that say which
members an attribute has.

Two kinds of attributes say something about queries. Those named `query` are
the library's own: each has to be a list that can be read, and the members of
all of them are taken as one list. Those named `sea_orm` are shared with others:
the ones that are no list, or none that can be read, are passed over.
-/

set_option autoImplicit false

namespace QueryGate

/-- The written form of what an attribute is assigned. -/
inductive WrittenValue where
  /-- A text literal, by its value. -/
  | text (value : String)
  /-- Anything else, as it is written. -/
  | source (written : String)
deriving DecidableEq, Repr

namespace WrittenValue

/-- The tokens of a value. -/
def tokens : WrittenValue → List Token
  | text value => [.literal (.text value)]
  | source written => Token.ofText written

end WrittenValue

/-- An attribute as it is written, or one in the list of another. -/
inductive Attribute where
  | flag (path : String)
  | setting (path : String) (value : WrittenValue)
  | list (path : String) (attributes : List Attribute)

namespace Attribute

mutual

/-- The tokens of an attribute. -/
def tokens : Attribute → List Token
  | flag path => Token.ofText path
  | setting path value => Token.ofText path ++ .mark '=' false :: value.tokens
  | list path attributes => Token.ofText path ++ [.group .round (separated attributes)]

/-- The tokens of attributes with commas between them. -/
def separated : List Attribute → List Token
  | [] => []
  | [last] => last.tokens
  | first :: second :: others => first.tokens ++ .mark ',' false :: separated (second :: others)

end

/-- The attribute read as a member that stands alone. -/
def member? (given : Attribute) : Option Member :=
  (Member.readAlone given.tokens).toOption

/-- The attributes of a name, among those that can be read. -/
def named (name : String) (attributes : List Attribute) : List Member :=
  (attributes.filterMap member?).filter fun given => given.path.isName name

/-- The members of all attributes for queries, or the first fault of one of
these attributes. -/
def queryMembers (attributes : List Attribute) : Except DeclarationFault (List Member) := do
  let lists ← (named "query" attributes).mapM Member.members
  return lists.flatten

/-- The members of all shared attributes that are lists which can be read. -/
def sharedMembers (attributes : List Attribute) : List Member :=
  ((named "sea_orm" attributes).filterMap fun given => given.members.toOption).flatten

/-- The first text that the shared attributes assign to a name. -/
def sharedText? (name : String) (attributes : List Attribute) : Option String :=
  (sharedMembers attributes).findSome? (Member.textOf? name)

/-- Whether the shared attributes hold a flag. -/
def hasSharedFlag (name : String) (attributes : List Attribute) : Bool :=
  (sharedMembers attributes).any fun member => member.isFlag name

end Attribute

end QueryGate

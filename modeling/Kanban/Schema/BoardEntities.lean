/-
The entities of the board itself: boards, lists and cards.  Labels, members
and options of a board have no shape yet and stay out of its type; positions
of lists and cards are fractions, so their type is given outright.
-/
import Kanban.Schema.Entity

namespace Kanban

namespace BoardEntities

def field (name kind : String) : Field :=
  ⟨.plain name kind, none, none⟩

def string (name : String) : Field :=
  field name "string"

def required (field : Field) : Field :=
  { field with required := true }

def readonly (field : Field) : Field :=
  { field with readonly := true }

def withDefault (value : Value) (field : Field) : Field :=
  { field with initial := value }

/-- A field whose type is named outright. -/
def named (name kind typeName : String) : Field :=
  { field name kind with override := some typeName }

def date (name : String) : Field :=
  named name "date" "Date"

/-- Identification and times of change, kept by the server. -/
def identity : Field := readonly (string "id")
def changeTimes : List Field := [readonly (date "createdAt"), readonly (date "updatedAt")]

def signatures (texts : List String) : List Value :=
  texts.map .text

def boardFields : List Field :=
  [identity,
    required (string "owner"),
    required (string "title"),
    readonly (string "slug"),
    string "description",
    withDefault (.int 0) { field "position" "number" with hidden := true },
    withDefault (.bool false) (field "archived" "boolean"),
    withDefault (.int 0) (field "stars" "number"),
    field "labels" "array",
    field "members" "array",
    field "options" "object"] ++
    changeTimes ++ [date "archivedAt", date "deletedAt"]

def listFields : List Field :=
  [identity,
    required (string "board"),
    required (string "title"),
    string "description",
    string "color",
    named "position" "number" "Float"] ++ changeTimes

def cardFields : List Field :=
  [identity,
    required (string "list"),
    required (string "title"),
    string "description",
    named "position" "number" "Float",
    { field "labels" "array" with items := some (string "labels") }] ++ changeTimes

def board : Entity where
  name := .text "Board"
  fields := ⟨boardFields, by decide⟩
  queries := signatures
    ["boards(limit: Int, offset: Int, sort: String): [Board]",
      "boardById(id: String!): Board"]
  mutations := signatures
    ["boardCreate(title: String!, description: String): Board",
      "boardUpdate(id: String!, title: String, description: String, archived: Boolean): Board",
      "boardRemove(id: String!): String"]
  description := .text "A board holding ordered lists"
  name_given := by decide

def list : Entity where
  name := .text "List"
  fields := ⟨listFields, by decide⟩
  queries := signatures
    ["lists(board: String!, sort: String): [List]",
      "listById(id: String!): List"]
  mutations := signatures
    ["listCreate(board: String!, title: String!, description: String): List",
      "listUpdate(id: String!, title: String, description: String, color: String): List",
      "listRemove(id: String!): String",
      "listMove(id: String!, fromIndex: Int, toIndex: Int!, board: String!): List"]
  description := .text "An ordered column of cards inside a board"
  name_given := by decide

def card : Entity where
  name := .text "Card"
  fields := ⟨cardFields, by decide⟩
  queries := signatures
    ["cards(list: String!, sort: String): [Card]",
      "cardById(id: String!): Card"]
  mutations := signatures
    ["cardCreate(list: String!, title: String!, description: String): Card",
      "cardUpdate(id: String!, title: String, description: String): Card",
      "cardRemove(id: String!): String",
      "cardMove(id: String!, fromIndex: Int, toIndex: Int!, list: String!): Card"]
  description := .text "An ordered item inside a list"
  name_given := by decide

/-- All of them, in the order in which they are registered. -/
def all : List Entity :=
  [board, list, card]

end BoardEntities

end Kanban

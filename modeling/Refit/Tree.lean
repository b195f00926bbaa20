import Refit.Path

namespace Refit

inductive Content
  | text (t : Text)
  | binary (bytes : List UInt8)
  deriving Repr, DecidableEq

namespace Content

def ofBytes (bytes : ByteArray) : Content :=
  match String.fromUTF8? bytes with
  | some s => text s.toList
  | none => binary bytes.toList

def size : Content → Nat
  | text t => Text.size t
  | binary bytes => bytes.length

def text? : Content → Option Text
  | text t => some t
  | binary _ => none

end Content

mutual

inductive Entry
  | file (content : Content)
  | link (target : Text)
  | folder (inner : Folder)

inductive Folder
  | nil
  | cons (name : Text) (entry : Entry) (rest : Folder)

end

namespace Folder

def find? (name : Text) : Folder → Option Entry
  | nil => none
  | cons n e rest => if n = name then some e else find? name rest

def insert (name : Text) (entry : Entry) : Folder → Folder
  | nil => cons name entry nil
  | cons n e rest =>
    match Text.cmp name n with
    | .lt => cons name entry (cons n e rest)
    | .eq => cons name entry rest
    | .gt => cons n e (insert name entry rest)

def at? (root : Folder) : List Text → Option Entry
  | [] => some (.folder root)
  | [name] => root.find? name
  | name :: rest =>
    match root.find? name with
    | some (.folder f) => f.at? rest
    | _ => none

def put (root : Folder) (entry : Entry) : List Text → Folder
  | [] => root
  | [name] => root.insert name entry
  | name :: rest =>
    match root.find? name with
    | some (.folder f) => root.insert name (.folder (f.put entry rest))
    | _ => root.insert name (.folder (Folder.nil.put entry rest))

end Folder

mutual

def Entry.leaves (place : List Text) : Entry → List (List Text × Entry)
  | .file c => [(place, .file c)]
  | .link t => [(place, .link t)]
  | .folder f => f.leaves place

def Folder.leaves (place : List Text) : Folder → List (List Text × Entry)
  | .nil => []
  | .cons n e rest => e.leaves (place ++ [n]) ++ rest.leaves place

end

structure Tree where
  top : Folder := .nil
  here : List Text := []

namespace Tree

def put (t : Tree) (entry : Entry) (place : List Text) : Tree :=
  { t with top := t.top.put entry place }

end Tree

end Refit

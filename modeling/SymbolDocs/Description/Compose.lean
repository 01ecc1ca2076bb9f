import SymbolDocs.Description.Basic
import SymbolDocs.Text.Blank

namespace SymbolDocs.Description

def tidy : Description → Option Description
  | text contents => if Text.isBlankText contents then none else some (text (Text.trim contents))
  | d => some d

def fuse? : Description → Description → Option Description
  | text s, text t => some (text (s ++ " " ++ t))
  | list (some s) xs, list (some t) ys =>
    if s = t then some (list (some s) (xs ++ ys)) else none
  | _, _ => none

def push : List Description → Description → List Description
  | [], next => [next]
  | [last], next => match fuse? last next with
    | some fused => [fused]
    | none => [last, next]
  | d :: e :: ds, next => d :: push (e :: ds) next

def merge (contents : List Description) (next : Description) : List Description :=
  match tidy next with
  | none => contents
  | some d => push contents d

def compose (ds : List Description) : List Description :=
  ds.foldl merge []

end SymbolDocs.Description

/-! The request methods a document may give to a path. -/

namespace ClientGen

inductive Verb
  | get | post | put | delete | patch | copy | head | options | link | unlink | purge | lock
  | unlock | propfind
  deriving DecidableEq

namespace Verb

def all : List Verb :=
  [get, post, put, delete, patch, copy, head, options, link, unlink, purge, lock, unlock, propfind]

def text : Verb → String
  | get => "GET"
  | post => "POST"
  | put => "PUT"
  | delete => "DELETE"
  | patch => "PATCH"
  | copy => "COPY"
  | head => "HEAD"
  | options => "OPTIONS"
  | link => "LINK"
  | unlink => "UNLINK"
  | purge => "PURGE"
  | lock => "LOCK"
  | unlock => "UNLOCK"
  | propfind => "PROPFIND"

/-- The verb a word names, whatever the case of its ASCII letters. -/
def ofText? (word : String) : Option Verb :=
  all.find? fun verb => verb.text == word.map Char.toUpper

end Verb

end ClientGen

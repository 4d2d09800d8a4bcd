import Exemplar.Text.Cluster
import Exemplar.Unicode.Casing

/-!
# Snake case

An identifier is cut into words and the words, in lower case, are joined by underscores. A hyphen,
an underscore or a space separates words and is dropped. A word also starts where a lower case
letter meets an upper case one, where letters and digits meet, and at the last capital of a row of
capitals that a lower case letter follows (`HTTPServer` is `http_server`). Letters are grapheme
clusters.
-/

namespace Exemplar.Naming

open Text Unicode

abbrev Cluster := List Char

def Cluster.isDigit (cluster : Cluster) : Bool :=
  cluster.all Char.isDigit

/-- A cluster has case if its two case mappings differ; it is upper case if it is its own one. -/
def Cluster.isUpper (cluster : Cluster) : Bool :=
  uppercase cluster != lowercase cluster && cluster == uppercase cluster

def Cluster.isLower (cluster : Cluster) : Bool :=
  uppercase cluster != lowercase cluster && cluster == lowercase cluster

def Cluster.isSeparator (cluster : Cluster) : Bool :=
  cluster == ['_'] || cluster == ['-'] || cluster == [' ']

/-- Whether a word starts at the second of two neighbours. -/
def startsWord (left right : Cluster) : Bool :=
  (left.isLower && right.isUpper) || (left.isUpper && right.isDigit)
    || (left.isDigit && right.isUpper) || (left.isDigit && right.isLower)
    || (left.isLower && right.isDigit)

/-- Whether the second of three neighbours is the last capital before a lower case letter. -/
def startsAfterAcronym (left middle right : Cluster) : Bool :=
  left.isUpper && middle.isUpper && right.isLower

/-- Whether a word starts at `cluster`, given the cluster before it, if any, and those after. -/
def isWordStart (before : Option Cluster) (cluster : Cluster) (after : List Cluster) : Bool :=
  match before, after with
  | none, _ => false
  | some left, [] => startsWord left cluster
  | some left, right :: _ => startsWord left cluster || startsAfterAcronym left cluster right

/-- The words of the rest of an identifier, where `word` is still open. Words may be empty. -/
def wordsFrom (before : Option Cluster) (word : List Char) : List Cluster → List (List Char)
  | [] => [word]
  | cluster :: rest =>
      if cluster.isSeparator then word :: wordsFrom (some cluster) [] rest
      else if isWordStart before cluster rest then
        word :: wordsFrom (some cluster) cluster rest
      else wordsFrom (some cluster) (word ++ cluster) rest

def words (identifier : List Char) : List (List Char) :=
  (wordsFrom none [] (clusters identifier)).filter (!·.isEmpty)

def snakeChars (identifier : List Char) : List Char :=
  ['_'].intercalate ((words identifier).map lowercase)

/-- The identifier in snake case. -/
def snake (identifier : String) : String :=
  String.ofList (snakeChars identifier.toList)

end Exemplar.Naming

import Exemplar.Query.Reader

/-!
# Definitions from the start

The filters that are there from the start and are written in the language of queries itself.
-/

namespace Exemplar.Query

/-- The definitions, each of which may use those before it and itself. -/
def preludeText : String :=
  "def true: 0 == 0;
def false: 0 != 0;
def null: [][0];
def not: if . then false else true end;
def select(f): if f then . else empty end;
def error(f): f | error;
def recurse(f): def rec: ., (f | rec); rec;
def recurse: recurse(.[]?);
def recurse(f; cond): recurse(f | select(cond));
def recurse_down: recurse;
def map(f): [.[] | f];
def map_values(f): .[] |= f;
def values: select(. != null);
def nulls: select(. == null);
def booleans: select(type == \"boolean\");
def numbers: select(type == \"number\");
def strings: select(type == \"string\");
def arrays: select(type == \"array\");
def objects: select(type == \"object\");
def iterables: select(. >= []);
def scalars: select(. < []);
def isboolean: type == \"boolean\";
def isnumber: type == \"number\";
def isstring: type == \"string\";
def isarray: type == \"array\";
def isobject: type == \"object\";
def range($upto): range(0; $upto; 1);
def range($from; $upto): range($from; $upto; 1);
def while(cond; step): def rec: if cond then ., (step | rec) else empty end; rec;
def until(cond; step): def rec: if cond then . else step | rec end; rec;
def repeat(f): def rec: ., (f | rec); rec;
def inputs: empty;
def input: empty;
def debug: .;
def debug(f): .;
def stderr: .;
def first: .[0];
def first(f): label $out | f | (., break $out);
def last: .[-1];
def last(f): reduce f as $x (null; $x);
def limit($n; f): if $n > 0
  then label $out | foreach f as $x (0; . + 1; $x, if . >= $n then break $out else empty end)
  else empty end;
def skip($n; f): foreach f as $x ($n; . - 1; if . < 0 then $x else empty end);
def nth($n): .[$n];
def nth($n; f): first(skip($n; f));
def isempty(g): label $out | (g | (false, break $out)), true;
def any(g; cond): isempty(first(g | select(cond))) | not;
def any(cond): any(.[]; cond);
def any: any(.);
def all(g; cond): isempty(first(g | select(cond | not)));
def all(cond): all(.[]; cond);
def all: all(.);
def add(f): reduce f as $x (null; . + $x);
def add: add(.[]);
def keys: keys_unsorted | sorted_under(.);
def sort_by(f): sorted_under(map([f]));
def sort: sort_by(.);
def group_by(f): grouped_under(map([f]));
def unique_by(f): distinct_under(map([f]));
def unique: unique_by(.);
def min_by(f): least_under(map([f]));
def min: min_by(.);
def max_by(f): greatest_under(map([f]));
def max: max_by(.);
def reverse: if type == \"string\" then explode | reverse | implode
  else [.[length - 1 - range(length)]] end;
def to_entries: [keys_unsorted[] as $k | \x7bkey: $k, value: .[$k]\x7d];
def from_entries: map(\x7b(.key): .value\x7d) | add + \x7b\x7d;
def with_entries(f): to_entries | map(f) | from_entries;
def in(xs): . as $x | xs | has($x);
def inside(xs): . as $x | xs | contains($x);
def index($i): indices($i) | .[0];
def rindex($i): indices($i) | .[-1];
def join($x): def text: if . == null then \"\" elif type == \"string\" then . else tojson end;
  reduce .[] as $i (null; (if . == null then \"\" else . + $x end) + ($i | text)) // \"\";
def ascii: [.] | implode;
def abs: if . < 0 then - . else . end;
def toarray: if type == \"array\" then . else [.] end;
def infinite: 1 / 0;
def nan: 0 / 0;
def isnan: type == \"number\" and . != .;
def isinfinite: . == infinite or . == -infinite;
def isnormal: (isnan or isinfinite or . == 0) | not;
def flatten_to($depth): reduce .[] as $i ([];
  . + if ($i | type) == \"array\" and $depth != 0 then $i | flatten_to($depth - 1) else [$i] end);
def flatten($depth): if $depth < 0 then error(\"flatten depth must not be negative\")
  else flatten_to($depth) end;
def flatten: flatten_to(-1);
def transpose: [range(map(length) | max // 0) as $i | [.[] | .[$i]]];
def combinations: if length == 0 then [] else .[0][] as $x | .[1:] | combinations as $w
  | [$x] + $w end;
def combinations(n): . as $dot | [range(n)] | map($dot) | combinations;
def walk(f): def rec: (.[]? |= rec) | f; rec;
def env: \x7b\x7d;
def getpath($p): if $p == [] then . elif . == null then null
  else .[$p[0]] | getpath($p[1:]) end;
def paths: path(..) | select(length > 0);
def paths(f): . as $top | paths | select(. as $p | $top | getpath($p) | f);
def leaf_paths: paths(scalars);
def del(f): f |= empty;
def delpaths($ps): reduce ($ps | sort | reverse | .[]) as $p (.; del(getpath($p)));
def pick(f): . as $top | reduce path(f) as $p (null; setpath($p; $top | getpath($p)));
def tostream: path(def rec: (.[]? | rec), .; rec) as $p | getpath($p)
  | reduce path(.[]?) as $q ([$p, .]; [$p + $q]);
def halt_error: error;
"

/-- The definitions from the start. -/
def prelude : List Definition :=
  (Definition.listOfText? preludeText).getD []

end Exemplar.Query

/-!
# Settings of the command line

What may be given on the command line, under its long name or its letter, and to which command.
-/

namespace Exemplar.CommandLine

inductive Setting where
  | help
  | version
  | verbose
  | input
  | jsonPointer
  | jqExpr
  | rootName
  | config
  | fieldPrefix
  | out
  | noOp
  | builders
  | packageName
  | alwaysExpose
  | modulePath
  deriving DecidableEq

namespace Setting

def longName : Setting → String
  | .help => "help"
  | .version => "version"
  | .verbose => "verbose"
  | .input => "input"
  | .jsonPointer => "json-pointer"
  | .jqExpr => "jq-expr"
  | .rootName => "root-name"
  | .config => "config"
  | .fieldPrefix => "prefix"
  | .out => "out"
  | .noOp => "no-op"
  | .builders => "builders"
  | .packageName => "package"
  | .alwaysExpose => "always-expose"
  | .modulePath => "module"

def letter? : Setting → Option Char
  | .help => some 'h'
  | .version => some 'V'
  | .verbose => some 'v'
  | .input => some 'i'
  | .out => some 'o'
  | _ => none

/-- Whether a value follows. -/
def takesValue : Setting → Bool
  | .help | .version | .verbose | .noOp | .builders | .alwaysExpose => false
  | _ => true

/-- Whether the value is a path, which is never empty. -/
def isPath : Setting → Bool
  | .config | .out => true
  | _ => false

end Setting

inductive CommandName where
  | model
  | java
  | rust
  deriving DecidableEq

namespace CommandName

def ofText? : String → Option CommandName
  | "model" => some .model
  | "java" => some .java
  | "rust" => some .rust
  | _ => none

/-- The settings that every command takes. -/
def commonSettings : List Setting :=
  [.help, .verbose, .input, .jsonPointer, .jqExpr, .rootName, .config, .fieldPrefix, .out, .noOp]

def settings : CommandName → List Setting
  | .model => commonSettings
  | .java => commonSettings ++ [.builders, .packageName, .alwaysExpose]
  | .rust => commonSettings ++ [.builders, .modulePath]

end CommandName

/-- The settings that may stand before the command. -/
def leadingSettings : List Setting :=
  [.help, .version, .verbose]

end Exemplar.CommandLine

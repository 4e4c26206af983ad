import GemOrder.Text.Blank
import GemOrder.Text.Quoted

namespace GemOrder

/-- The words that a manifest is read by, and the names that manifests have. -/
structure Config where
  declarationKeyword : String := "gem"
  scopeKeyword : String := "group"
  closerKeyword : String := "end"
  commentPrefix : String := "#"
  starterKeywords : List String :=
    ["gem", "group", "source", "ruby", "path", "plugin", "platforms", "platform", "end", "gemspec",
     "git", "github", "if", "elsif", "else", "unless", "local_gemfile", "instance_eval",
     "eval_gemfile", "install_if", "rack_version"]
  extraStarterKeywords : List String := []
  manifestNames : List String := ["Gemfile", "gems.rb"]
deriving DecidableEq

namespace Config

/-- The keywords of declarations, scopes and closers, each with the name of its setting. -/
def keywords (c : Config) : List (String × String) :=
  [("declaration_keyword", c.declarationKeyword), ("scope_keyword", c.scopeKeyword),
   ("closer_keyword", c.closerKeyword)]

/-- All words that a new statement can start with. -/
def starters (c : Config) : List String :=
  c.keywords.foldl (fun ws (_, w) => if ws.contains w then ws else ws ++ [w])
    (c.starterKeywords ++ c.extraStarterKeywords)

/-- Why a configuration cannot be used. -/
inductive Fault where
  | emptyKeyword (setting : String)
  | spacedKeyword (setting keyword : String)
  | emptyComment
  | badStarter (keyword : String)
  | noManifest
deriving DecidableEq

def Fault.message : Fault → String
  | .emptyKeyword setting => s!"{setting} must not be empty"
  | .spacedKeyword setting keyword =>
    s!"{setting} {Text.quote keyword} must not contain whitespace"
  | .emptyComment => "comment_prefix must not be empty"
  | .badStarter keyword =>
    s!"starter keyword {Text.quote keyword} must be a single non-empty word"
  | .noManifest => "manifest_names must name at least one file"

def hasBlank (s : String) : Bool :=
  s.toList.any Text.isBlank

def allBlank (s : String) : Bool :=
  s.toList.all Text.isBlank

def keywordFault? : String × String → Option Fault
  | (setting, keyword) =>
    if keyword.isEmpty then some (.emptyKeyword setting)
    else if hasBlank keyword then some (.spacedKeyword setting keyword)
    else none

def starterFault? (keyword : String) : Option Fault :=
  if keyword.isEmpty || hasBlank keyword then some (.badStarter keyword) else none

/-- The first fault: keywords come before the comment prefix, then starters, then manifests. -/
def fault? (c : Config) : Option Fault :=
  c.keywords.findSome? keywordFault?
    <|> (if allBlank c.commentPrefix then some .emptyComment else none)
    <|> c.starters.findSome? starterFault?
    <|> (if c.manifestNames.all allBlank then some .noManifest else none)

/-- The settings that one configuration file gives. -/
structure Overlay where
  declarationKeyword : Option String := none
  scopeKeyword : Option String := none
  closerKeyword : Option String := none
  commentPrefix : Option String := none
  starterKeywords : Option (List String) := none
  extraStarterKeywords : List String := []
  manifestNames : Option (List String) := none
deriving DecidableEq

/-- A setting that is given replaces the one before; extra starters are added, each once. -/
def apply (c : Config) (o : Overlay) : Config where
  declarationKeyword := o.declarationKeyword.getD c.declarationKeyword
  scopeKeyword := o.scopeKeyword.getD c.scopeKeyword
  closerKeyword := o.closerKeyword.getD c.closerKeyword
  commentPrefix := o.commentPrefix.getD c.commentPrefix
  starterKeywords := o.starterKeywords.getD c.starterKeywords
  extraStarterKeywords := o.extraStarterKeywords.foldl
    (fun ws w => if ws.contains w then ws else ws ++ [w]) c.extraStarterKeywords
  manifestNames := o.manifestNames.getD c.manifestNames

end Config

end GemOrder

import SourceOutline.Data.Value

/-!
# Faults

A fault is told by its cause.  Every cause has a numbered code, a message and
details; a report holds them together with a mark that tells whether trying
again may help.
-/

namespace SourceOutline

/-- The codes of faults.  Those from 2000 on concern settings, those from 3000 on
concern sources, and those from 9000 on concern this library itself. -/
inductive FaultCode where
  | configParse
  | configValue
  | grammarUnavailable
  | sourceUnreadable
  | sourceTooLarge
  | internal
  deriving DecidableEq, Repr

namespace FaultCode

def number : FaultCode → Int
  | configParse => 2001
  | configValue => 2002
  | grammarUnavailable => 3001
  | sourceUnreadable => 3002
  | sourceTooLarge => 3003
  | internal => 9001

def name : FaultCode → String
  | configParse => "CONFIG_PARSE_ERROR"
  | configValue => "CONFIG_INVALID_VALUE"
  | grammarUnavailable => "GRAMMAR_NOT_AVAILABLE"
  | sourceUnreadable => "SOURCE_READ_FAILED"
  | sourceTooLarge => "SOURCE_TOO_LARGE"
  | internal => "INTERNAL_ERROR"

def all : List FaultCode :=
  [configParse, configValue, grammarUnavailable, sourceUnreadable, sourceTooLarge, internal]

def numbered? (number : Int) : Option FaultCode :=
  all.find? (·.number == number)

end FaultCode

structure Report where
  code : FaultCode
  message : String
  retryable : Bool := false
  details : List (String × Value) := []

namespace Report

def text (report : Report) : String :=
  "[" ++ toString report.code.number ++ "] " ++ report.code.name ++ ": " ++ report.message

def toValue (report : Report) : Value :=
  .record
    [("code", .int report.code.number), ("error", .text report.code.name),
      ("message", .text report.message), ("retryable", .bool report.retryable),
      ("details", .record report.details)]

end Report

/-- Digits in groups of three from the right, the digits being given with the
last one first and `place` telling how many were written. -/
def groupDigits (place : Nat) : List Char → List Char
  | [] => []
  | c :: rest =>
      if place ≠ 0 ∧ place % 3 = 0 then ',' :: c :: groupDigits (place + 1) rest
      else c :: groupDigits (place + 1) rest

def grouped (n : Int) : String :=
  (if n < 0 then "-" else "") ++
    String.ofList (groupDigits 0 (Nat.toDigits 10 n.natAbs).reverse).reverse

inductive Fault where
  /-- A settings file is not well-formed. -/
  | configParse (path reason : String)
  /-- A setting has a value that is not allowed. -/
  | configValue (field : String) (value : Value) (reason : String)
  /-- A grammar cannot be loaded; the package is empty when none is known. -/
  | grammarUnavailable (grammar package reason : String)
  /-- A source file cannot be read. -/
  | sourceUnreadable (path reason : String)
  /-- A source file has more bytes than the limit. -/
  | sourceTooLarge (path : String) (size limit : Int)
  /-- Something that this library rules out has happened. -/
  | internal (reason : String) (details : List (String × Value))

namespace Fault

def code : Fault → FaultCode
  | configParse _ _ => .configParse
  | configValue _ _ _ => .configValue
  | grammarUnavailable _ _ _ => .grammarUnavailable
  | sourceUnreadable _ _ => .sourceUnreadable
  | sourceTooLarge _ _ _ => .sourceTooLarge
  | internal _ _ => .internal

def message : Fault → String
  | configParse path reason => "Failed to parse config at " ++ path ++ ": " ++ reason
  | configValue field _ reason => "Invalid value for '" ++ field ++ "': " ++ reason
  | grammarUnavailable grammar package reason =>
      "Grammar '" ++ grammar ++ "' is not available: " ++ reason ++ "." ++
        (if package.isEmpty then "" else " Install the '" ++ package ++ "' package.")
  | sourceUnreadable path reason => "Cannot read " ++ path ++ ": " ++ reason
  | sourceTooLarge path size limit =>
      path ++ " is " ++ grouped size ++ " bytes, exceeds limit of " ++ grouped limit ++ " bytes"
  | internal reason _ => "Internal error: " ++ reason

def details : Fault → List (String × Value)
  | configParse path reason => [("path", .text path), ("reason", .text reason)]
  | configValue field value reason =>
      [("field", .text field), ("value", .text value.display), ("reason", .text reason)]
  | grammarUnavailable grammar package reason =>
      [("grammar", .text grammar), ("module", .text package), ("reason", .text reason)]
  | sourceUnreadable path reason => [("path", .text path), ("reason", .text reason)]
  | sourceTooLarge path size limit =>
      [("path", .text path), ("size", .int size), ("limit", .int limit)]
  | internal _ details => details

def report (fault : Fault) : Report :=
  { code := fault.code, message := fault.message, details := fault.details }

end Fault

/-- Why a text can be the path of nothing. -/
inductive PathFault where
  | nullCharacter
  /-- It has a character that the encoding of file names lacks. -/
  | unencodable
  deriving DecidableEq, Repr

namespace PathFault

def text : PathFault → String
  | nullCharacter => "embedded null byte"
  | unencodable => "a character cannot be encoded"

end PathFault

/-- What stops a computation: a fault of this library, or an error of something that
it calls. -/
inductive Stop where
  | fault (fault : Fault)
  | path (fault : PathFault)
  /-- A grammar's library fails in a way that is not expected of libraries. -/
  | raised (kind message : String)
  /-- A parser is used before it has a language. -/
  | noLanguage

end SourceOutline

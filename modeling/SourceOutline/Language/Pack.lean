import SourceOutline.Comment.Style
import SourceOutline.Language.Vocabulary
import SourceOutline.Text.Lower

/-!
# The languages this library reads

A pack holds all that is known of one language: the grammar that parses it and
the package that provides the grammar, the extensions of its files, its comment
delimiters and its vocabulary.  No extension belongs to two languages.
-/

namespace SourceOutline

structure Pack where
  /-- The identifier of the grammar. -/
  name : String
  /-- The package that provides the grammar. -/
  package : String
  /-- The library to load from the package. -/
  library : String
  minVersion : String := "0.23.0"
  /-- The entry point of the library. -/
  entry : String := "language"
  extensions : List String
  comments : CommentStyle := {}
  vocabulary : Vocabulary := {}
  deriving DecidableEq, Repr

namespace Pack

/-- Strings may also be written between back-ticks. -/
def backtickComments : CommentStyle :=
  { quotes := ascii "\"'\x60" }

def jsFunctionValues : List String :=
  ["arrow_function", "function_expression", "function", "generator_function"]

def jsVocabulary : Vocabulary where
  functionKinds := ["function_declaration", "generator_function_declaration", "method_definition"]
  bindingKinds := ["variable_declarator", "assignment_expression"]
  functionValueKinds := jsFunctionValues
  classKinds := ["class_declaration"]
  memberListKinds := ["class_body"]
  exportKinds := ["export_statement"]
  propertyKinds := ["pair"]
  memberFunctionKinds := ["method_definition"]
  memberPropertyKinds := ["field_definition"]

def tsVocabulary : Vocabulary where
  functionKinds :=
    ["function_declaration", "generator_function_declaration", "function_signature",
      "method_definition"]
  bindingKinds := ["variable_declarator", "assignment_expression"]
  functionValueKinds := jsFunctionValues
  classKinds :=
    ["class_declaration", "abstract_class_declaration", "interface_declaration",
      "enum_declaration"]
  memberListKinds := ["class_body"]
  exportKinds := ["export_statement"]
  typeAliasKinds := ["type_alias_declaration"]
  functionTypeKinds := ["function_type"]
  propertyKinds := ["pair"]
  memberFunctionKinds := ["method_definition", "method_signature", "abstract_method_signature"]
  memberPropertyKinds := ["field_definition", "public_field_definition", "property_signature"]

def javascript : Pack where
  name := "javascript"
  package := "tree-sitter-javascript"
  library := "tree_sitter_javascript"
  extensions := [".js", ".jsx"]
  comments := backtickComments
  vocabulary := jsVocabulary

def typescript : Pack where
  name := "typescript"
  package := "tree-sitter-typescript"
  library := "tree_sitter_typescript"
  entry := "language_typescript"
  extensions := [".ts"]
  comments := backtickComments
  vocabulary := tsVocabulary

def tsx : Pack where
  name := "tsx"
  package := "tree-sitter-typescript"
  library := "tree_sitter_typescript"
  entry := "language_tsx"
  extensions := [".tsx"]
  comments := backtickComments
  vocabulary := tsVocabulary

def python : Pack where
  name := "python"
  package := "tree-sitter-python"
  library := "tree_sitter_python"
  extensions := [".py"]
  comments := { lineMarks := [ascii "#"], blockMarks := [], tripleQuoted := true }
  vocabulary :=
    { functionKinds := ["function_definition"]
      bindingKinds := ["assignment"]
      functionValueKinds := ["lambda"]
      classKinds := ["class_definition"]
      memberFunctionKinds := ["function_definition"]
      memberWrappers := [("decorated_definition", .field "definition")] }

def ruby : Pack where
  name := "ruby"
  package := "tree-sitter-ruby"
  library := "tree_sitter_ruby"
  extensions := [".rb"]
  comments :=
    { lineMarks := [ascii "#"], blockMarks := [⟨ascii "=begin", ascii "=end"⟩] }
  vocabulary :=
    { functionKinds := ["method", "singleton_method"]
      bindingKinds := ["assignment"]
      functionValueKinds := ["lambda"]
      classKinds := ["class", "module"]
      memberFunctionKinds := ["method", "singleton_method"]
      returnTypeFields := [] }

def java : Pack where
  name := "java"
  package := "tree-sitter-java"
  library := "tree_sitter_java"
  extensions := [".java"]
  vocabulary :=
    { functionKinds := ["method_declaration", "constructor_declaration"]
      bindingKinds := ["variable_declarator"]
      functionValueKinds := ["lambda_expression"]
      classKinds :=
        ["class_declaration", "interface_declaration", "enum_declaration", "record_declaration"]
      memberFunctionKinds :=
        ["method_declaration", "constructor_declaration", "compact_constructor_declaration"]
      memberListKinds := ["class_body"]
      memberWrappers := [("enum_body_declarations", .flatten)]
      returnTypeFields := ["type"] }

def c : Pack where
  name := "c"
  package := "tree-sitter-c"
  library := "tree_sitter_c"
  extensions := [".c", ".h"]
  vocabulary :=
    { functionKinds := ["function_definition"]
      returnTypeFields := ["type"] }

def cpp : Pack where
  name := "cpp"
  package := "tree-sitter-cpp"
  library := "tree_sitter_cpp"
  extensions := [".cpp", ".hpp", ".cc"]
  vocabulary :=
    { functionKinds := ["function_definition"]
      bindingKinds := ["init_declarator"]
      functionValueKinds := ["lambda_expression"]
      classKinds := ["class_specifier", "struct_specifier"]
      classRequiresBody := true
      memberListKinds := ["field_declaration_list"]
      memberFunctionKinds := ["function_definition"]
      memberPrototypeKinds := ["field_declaration", "declaration"]
      functionDeclaratorKinds := ["function_declarator"]
      memberWrappers := [("template_declaration", .flatten)]
      returnTypeFields := ["type"] }

def csharp : Pack where
  name := "c_sharp"
  package := "tree-sitter-c-sharp"
  library := "tree_sitter_c_sharp"
  extensions := [".cs"]
  vocabulary :=
    { functionKinds := ["method_declaration", "constructor_declaration", "local_function_statement"]
      bindingKinds := ["variable_declarator"]
      functionValueKinds := ["lambda_expression", "anonymous_method_expression"]
      classKinds :=
        ["class_declaration", "interface_declaration", "struct_declaration",
          "record_declaration", "enum_declaration"]
      memberFunctionKinds := ["method_declaration", "constructor_declaration"]
      returnTypeFields := ["returns", "type"] }

def go : Pack where
  name := "go"
  package := "tree-sitter-go"
  library := "tree_sitter_go"
  extensions := [".go"]
  comments := backtickComments
  vocabulary :=
    { functionKinds := ["function_declaration", "method_declaration"]
      returnTypeFields := ["result"] }

def php : Pack where
  name := "php"
  package := "tree-sitter-php"
  library := "tree_sitter_php"
  entry := "language_php"
  extensions := [".php"]
  comments := { lineMarks := [ascii "//", ascii "#"] }
  vocabulary :=
    { functionKinds := ["function_definition", "method_declaration"]
      bindingKinds := ["assignment_expression"]
      functionValueKinds :=
        ["anonymous_function", "anonymous_function_creation_expression", "arrow_function"]
      classKinds :=
        ["class_declaration", "interface_declaration", "trait_declaration", "enum_declaration"]
      memberFunctionKinds := ["method_declaration"] }

def rust : Pack where
  name := "rust"
  package := "tree-sitter-rust"
  library := "tree_sitter_rust"
  extensions := [".rs"]
  vocabulary :=
    { functionKinds := ["function_item", "function_signature_item"]
      bindingKinds := ["let_declaration"]
      functionValueKinds := ["closure_expression"]
      classKinds := ["impl_item", "trait_item", "struct_item", "enum_item"]
      memberFunctionKinds := ["function_item", "function_signature_item"] }

/-- Every pack, in the order in which languages are listed. -/
def all : List Pack :=
  [javascript, typescript, tsx, python, ruby, java, c, cpp, csharp, go, php, rust]

def named? (name : String) : Option Pack :=
  all.find? (·.name == name)

/-- The pack whose files have an extension, whatever its case. -/
def forExtension? (extension : String) : Option Pack :=
  all.find? (·.extensions.contains (lowerCase extension))

def knownExtensions : List String :=
  all.flatMap extensions

/-- Extensions that are recognised and not parsed. -/
def skippedExtensions : List String := [".json"]

end Pack
end SourceOutline

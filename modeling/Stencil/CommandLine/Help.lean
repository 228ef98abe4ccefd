import Stencil.Text.Basic

/-! The texts that explain the program: how to call it, and what its files look like. -/

namespace Stencil.CommandLine

def unlines (lines : List String) : Text := lines.flatMap fun line => line.toList ++ ['\n']

def usage : String := "Usage: typegen [OPTIONS] [TEMPLATES]..."

def help : Text := unlines
  ["Expand @key@ templates once per type descriptor entry",
    "",
    usage,
    "",
    "Arguments:",
    "  [TEMPLATES]...  Template files to expand",
    "",
    "Options:",
    "  -f, --types <FILE>  Type descriptor file (TOML with a `types_list`), may be repeated",
    "  -d, --dir <DIR>     Destination directory (defaults to the current directory)",
    "  -n, --dry-run       Print the files that would be generated without writing them",
    "  -v, --verbose...    Increase log verbosity (-v info, -vv debug, -vvv trace)",
    "      --format-help   Show the descriptor and template format reference",
    "  -h, --help          Print help"]

def refusal : Text := unlines
  ["error: the arguments cannot be read",
    "",
    usage,
    "",
    "For more information, try '--help'."]

def formatHelp : Text := unlines
  ["TYPEGEN FORMAT REFERENCE",
    "========================",
    "",
    "DESCRIPTORS",
    "-----------",
    "A descriptor is a TOML file with a top-level `types_list` array.",
    "Each element is a table of placeholder keys to replacement strings:",
    "",
    "    [[types_list]]",
    "    t = \"d\"",
    "    type = \"gdouble\"",
    "",
    "    [[types_list]]",
    "    t = \"z\"",
    "    type = \"gcomplex128\"",
    "",
    "or, inline:",
    "",
    "    types_list = [",
    "      \x7b TYPE = \"int\", SUFFIX = \"i\" \x7d,",
    "      \x7b TYPE = \"float\", SUFFIX = \"f\" \x7d,",
    "    ]",
    "",
    "Keys must be non-empty and may not contain '@' or line breaks.",
    "Values must be strings. Other top-level keys are ignored.",
    "",
    "TEMPLATES",
    "---------",
    "A key k is written as @k@ in template text and in template file names:",
    "",
    "    arancoefficientbuffer@t@.h",
    "        typedef @type@ (*AranCoefficientBuffer@t@Generator) (guint n);",
    "",
    "Matching is literal. Keys are applied in the order they are declared,",
    "each one rewriting the output of the previous one, so a value may",
    "contain the token of a key declared after it.",
    "",
    "OUTPUT",
    "------",
    "One file per (entry, template) pair, named by substituting the",
    "template's file name, written to --dir. Existing files are overwritten."]

end Stencil.CommandLine

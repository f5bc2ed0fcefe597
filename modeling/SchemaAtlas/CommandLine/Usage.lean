import SchemaAtlas.CommandLine.Arguments
/-!
What the program tells about its arguments, in lines of at most 80 characters.
-/
namespace SchemaAtlas.CommandLine

def program : String := "ddl-to-er"

def offered (values : List String) : String := "\x7b" ++ ",".intercalate values ++ "\x7d"

def offeredFormats : String := offered Drawing.formats

def offeredDocuments : String := offered (DocumentFormat.all.map DocumentFormat.label)

def usage : String :=
  Text.unlines
    ["usage: " ++ program ++ " [-h] [-o OUTPUT] [--format " ++ offeredFormats ++ "]",
     "                 [--output-dir OUTPUT_DIR] [--no-view] [--json] [--mermaid]",
     "                 [--doc " ++ offeredDocuments ++ "] [-v]",
     "                 input"]

def help : String :=
  usage ++ Text.unlines
    ["",
     "Convert SQL CREATE TABLE statements to ER diagrams",
     "",
     "positional arguments:",
     "  input                 SQL file path or '-' for stdin",
     "",
     "options:",
     "  -h, --help            show this help message and exit",
     "  -o OUTPUT, --output OUTPUT",
     "                        Output filename (without extension)",
     "  --format " ++ offeredFormats,
     "                        Diagram image format",
     "  --output-dir OUTPUT_DIR",
     "                        Directory for generated files",
     "  --no-view             Don't open the diagram after rendering",
     "  --json                Print the parsed schema and diagram projection as JSON",
     "                        instead of rendering",
     "  --mermaid             Print a Mermaid erDiagram instead of rendering",
     "  --doc " ++ offeredDocuments ++ "     Write a data dictionary document instead of rendering",
     "  -v, --verbose         Enable debug logging"]

def refusal (fault : UsageFault) : String :=
  usage ++ program ++ ": error: " ++ fault.message ++ "\n"

end SchemaAtlas.CommandLine

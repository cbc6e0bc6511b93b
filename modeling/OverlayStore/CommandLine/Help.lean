import OverlayStore.CommandLine

/-!
# Help

The texts that the command prints about itself. A page has a line on what is done, a line on how it
is written, and lists of the names and forms that may be used, in two columns. Where the first
column leaves too little room for what the second has to say, the second stands below the first.
-/

namespace OverlayStore.CommandLine

/-- A line of a list: a name or form with what it is for. -/
structure Entry where
  /-- What stands in front of the form. -/
  lead : String := ""
  /-- The name or form. -/
  form : String
  /-- What it is for. -/
  about : String

/-- A list on a page. -/
structure Listing where
  /-- The heading. -/
  heading : String
  /-- The lines. -/
  entries : List Entry

/-- A page of help. -/
structure Page where
  /-- What is done. -/
  about : Option String := none
  /-- How it is written. -/
  usage : String
  /-- The names and forms that may be used. -/
  listings : List Listing

/-- How wide a page is, in characters. -/
def pageWidth : Nat := 100

/-- The room that a listing keeps for all but the forms and the second column. -/
def marginWidth : Nat := 12

namespace Listing

/-- The width of the widest form. -/
def formWidth (listing : Listing) : Nat :=
  (listing.entries.map fun entry => entry.form.length).foldl max 2

/-- The second column has to stand below the first: the forms take more than two fifths of the page
and some line does not fit in the rest. -/
def isStacked (listing : Listing) : Bool :=
  let taken := listing.formWidth + marginWidth
  decide (taken ≤ pageWidth) && decide (2 * pageWidth < 5 * taken) &&
    listing.entries.any fun entry => decide (pageWidth - taken < entry.about.length)

/-- The lines of a listing. -/
def lines (listing : Listing) : List String :=
  let blanks (count : Nat) := String.ofList (List.replicate count ' ')
  let between (entry : Entry) :=
    if listing.isStacked then "\n" ++ blanks 10
    else blanks (listing.formWidth + 2 - entry.form.length)
  (listing.heading ++ ":") :: listing.entries.map fun entry =>
    "  " ++ entry.lead ++ entry.form ++ between entry ++ entry.about

end Listing

/-- The text of a page. -/
def Page.text (page : Page) : String :=
  let about := page.about.elim [] fun about => [about, ""]
  let listings := page.listings.flatMap fun listing => "" :: listing.lines
  "\n".intercalate (about ++ ["Usage: kadmos " ++ page.usage] ++ listings) ++ "\n"

/-- An option as a line of a list: its short and long form, with the name of its value. -/
def Item.optionEntry (item : Item) : Entry where
  lead :=
    match item.short with
    | some c => "-" ++ String.singleton c ++ ", "
    | none => "    "
  form := if item.effect.takesValue then s!"--{item.name} <{item.valueName}>" else s!"--{item.name}"
  about := item.about

/-- The options of a grammar. -/
def Grammar.optionListing (grammar : Grammar) : Listing :=
  ⟨"Options", grammar.options.map Item.optionEntry⟩

/-- The operands of a grammar. -/
def Grammar.operandListing (grammar : Grammar) : Listing :=
  ⟨"Arguments", grammar.operands.map fun item => ⟨"", s!"<{item.valueName}>", item.about⟩⟩

/-- What a subcommand does. -/
def aboutSubcommand : String → String
  | "config" => "Print the effective configuration as TOML"
  | "validate" => "Check a configuration file"
  | "demo" => "Publish values into an in-process overlay and report the outcome"
  | _ => "Print this message or the help of the given subcommand(s)"

/-- The page on the whole command. -/
def mainPage : Page where
  usage := "[OPTIONS] [COMMAND]"
  listings := [
    ⟨"Commands", mainGrammar.subcommands.map fun name => ⟨"", name, aboutSubcommand name⟩⟩,
    mainGrammar.optionListing]

/-- The page on a subcommand. -/
def subcommandPage (name : String) : Page :=
  let about := aboutSubcommand name
  match name with
  | "config" => ⟨about, "config", [configGrammar.optionListing]⟩
  | "validate" =>
    ⟨about, "validate <PATH>", [validateGrammar.operandListing, validateGrammar.optionListing]⟩
  | "demo" => ⟨about, "demo [OPTIONS]", [demoGrammar.optionListing]⟩
  | _ =>
    ⟨about, "help [COMMAND]...",
      [⟨"Arguments", [⟨"", "[COMMAND]...", "Print help for the subcommand(s)"⟩]⟩]⟩

/-- The help text on a subcommand, or on the whole command. -/
def helpText (subcommand : Option String) : String :=
  (subcommand.elim mainPage subcommandPage).text

end OverlayStore.CommandLine

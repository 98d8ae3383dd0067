/-
**The site to start from.**

* `Scaffold.config`, `Scaffold.intro`, `Scaffold.gettingStarted`: the files of a new site.
-/

import Docsite.Text.Cut

namespace Docsite.Scaffold

/-- The lines of a file. -/
def ofLines (lines : List String) : String :=
  Text.joinWith "\n" lines ++ "\n"

/-- The configuration of a new site. -/
def config : String :=
  ofLines [
    "# Portico site configuration",
    "",
    "title = \"My Project\"",
    "tagline = \"Documentation for My Project\"",
    "url = \"https://example.com\"",
    "baseUrl = \"/\"",
    "",
    "# throw | warn | log | ignore",
    "onBrokenLinks = \"throw\"",
    "onBrokenMarkdownLinks = \"warn\"",
    "",
    "[docs]",
    "path = \"docs\"",
    "routeBasePath = \"docs\"",
    "",
    "[themeConfig.navbar]",
    "title = \"My Project\"",
    "",
    "[[themeConfig.navbar.items]]",
    "label = \"Docs\"",
    "to = \"docs/intro\"",
    "position = \"left\"",
    "",
    "[themeConfig.footer]",
    "style = \"dark\"",
    "copyright = \"Copyright © My Project.\"",
    "",
    "[[themeConfig.footer.links]]",
    "title = \"Docs\"",
    "items = [",
    "  \x7b label = \"Getting Started\", to = \"docs/getting-started\" \x7d,",
    "]"]

/-- The first page of a new site. -/
def intro : String :=
  ofLines [
    "---",
    "title: Introduction",
    "---",
    "",
    "# Introduction",
    "",
    "Welcome! Head over to [Getting Started](getting-started.md) to set things up."]

/-- The second page of a new site. -/
def gettingStarted : String :=
  ofLines [
    "---",
    "title: Getting Started",
    "---",
    "",
    "# Getting Started",
    "",
    "Edit `portico.toml` to describe your site, then run:",
    "",
    "```bash",
    "portico check",
    "```",
    "",
    "Every navbar and footer link is checked against the pages in `docs/`,",
    "and so are the links between Markdown files. Back to the [introduction](intro.md)."]

end Docsite.Scaffold
